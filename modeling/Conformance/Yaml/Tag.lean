import Conformance.Yaml.Time

/-! # Types of YAML nodes

A node's type is given by its tag or, for a plain scalar without one, by what the scalar looks like.

* `Tag`: the known types.
* `Tag.ofUri`: the type that a full tag names.
* `Tag.ofPlain`: the type that a plain scalar has by its looks.
-/

namespace Conformance.Yaml
set_option autoImplicit false

inductive Tag where
  | null | bool | int | float | str | binary | timestamp
  | seq | map | omap | pairs | set
  /-- The key that draws in the entries of other mappings. -/
  | merge
  /-- The key that stands for a mapping's own value. -/
  | default
  | unknown
  deriving DecidableEq

namespace Tag

def uriStart : String := "tag:yaml.org,2002:"

def known : List (String × Tag) :=
  [("null", null), ("bool", bool), ("int", int), ("float", float), ("str", str),
    ("binary", binary), ("timestamp", timestamp), ("seq", seq), ("map", map), ("omap", omap),
    ("pairs", pairs), ("set", set), ("merge", merge), ("value", default)]

def ofUri (uri : String) : Tag :=
  ((known.find? fun k => uriStart ++ k.1 == uri).map Prod.snd).getD unknown

/-! ## Plain scalars -/

def truthWords : List (String × Bool) :=
  [("yes", true), ("no", false), ("true", true), ("false", false), ("on", true), ("off", false)]

/-- The spellings of a word in small letters, with a capital, and in capitals. -/
def spellings (word : String) : List String := [word, word.capitalize, word.toUpper]

def isTruthText (s : String) : Bool := truthWords.any fun w => (spellings w.1).contains s

def isNullText (s : String) : Bool := s == "" || s == "~" || (spellings "null").contains s

/-- A sign ahead is passed over. -/
def unsigned : List Char → List Char
  | '+' :: r => r
  | '-' :: r => r
  | cs => cs

def isDigitOrMark (c : Char) : Bool := c.isDigit || c == '_'

/-- The parts behind the first one between colons are numbers below sixty, and there is one. -/
def isSixtieths : List (List Char) → Bool
  | [] => false
  | parts => parts.all fun
    | [a] => a.isDigit
    | [a, b] => '0' ≤ a && a ≤ '5' && b.isDigit
    | _ => false

def startsWithDigit (cs : List Char) : Bool := cs.head?.any Char.isDigit

def isDecimalText (cs : List Char) : Bool :=
  cs == ['0'] || (startsWithDigit cs && cs.head? != some '0' && cs.all isDigitOrMark)

def isIntegerText (cs : List Char) : Bool :=
  match unsigned cs with
  | '0' :: 'b' :: r => !r.isEmpty && r.all fun c => c == '0' || c == '1' || c == '_'
  | '0' :: 'x' :: r => !r.isEmpty && r.all fun c => (Json.hexDigit? c).isSome || c == '_'
  | '0' :: c :: r => (c :: r).all fun c => ('0' ≤ c && c ≤ '7') || c == '_'
  | body =>
    isDecimalText body ||
      match Text.splitOn ':' body with
      | whole :: parts => isDecimalText whole && whole != ['0'] && isSixtieths parts
      | [] => false

/-- An exponent with a sign, or nothing. -/
def isExponent : List Char → Bool
  | [] => true
  | e :: sign :: digits =>
    (e == 'e' || e == 'E') && (sign == '+' || sign == '-') && !digits.isEmpty &&
      digits.all Char.isDigit
  | _ => false

/-- Digits and an exponent behind a decimal point. -/
def isFraction (cs : List Char) : Bool := isExponent (cs.dropWhile isDigitOrMark)

/-- A number with a decimal point; an infinity or a missing number has a point first. A leading
point takes no sign before digits. -/
def isFloatText (cs : List Char) : Bool :=
  let body := unsigned cs
  match body with
  | '.' :: r =>
    (spellings "inf").contains (String.ofList r) ||
      (body.length = cs.length &&
        (["nan", "NaN", "NAN"].contains (String.ofList r) || (startsWithDigit r && isFraction r)))
  | _ =>
    let whole := body.takeWhile fun c => isDigitOrMark c || c == ':'
    match body.drop whole.length, Text.splitOn ':' whole with
    | '.' :: r, first :: parts =>
      startsWithDigit first &&
        (if parts.isEmpty then isFraction r else isSixtieths parts && r.all isDigitOrMark)
    | _, _ => false

/-- The type that a plain scalar has by its looks. -/
def ofPlain (s : String) : Tag :=
  let cs := s.toList
  if isTruthText s then bool
  else if isFloatText cs then float
  else if isIntegerText cs then int
  else if s == "<<" then merge
  else if isNullText s then null
  else if (TimeText.read? false cs).isSome then timestamp
  else if s == "=" then default
  else str

end Tag

end Conformance.Yaml
