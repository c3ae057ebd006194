import Conformance.Json.Reader
import Conformance.Number.Text
import Conformance.Offside.Name
import Conformance.Offside.Node
import Conformance.Text.Lines

/-! # Tokens of indentation-structured modules

* `Token`: a lexeme and the line it starts in.
* `Indentation`: the widths of the blocks that are open.
* `Token.ofText?`: the tokens of a source, with those that line ends and indentation stand for.

A line goes on inside brackets and behind a backslash.
-/

namespace Conformance.Offside
open Text
set_option autoImplicit false

inductive Lexeme where
  | name (i : Identifier)
  | number (c : Constant)
  /-- A quoted text: the letters before the quotes, and what stands between the quotes. -/
  | text (marks : List Char) (body : List Char)
  | op (s : String)
  | newline | indent | dedent | stop
  deriving Inhabited

structure Token where
  lexeme : Lexeme
  line : Nat

/-! ## Numbers -/

/-- What may follow a number without a blank: the first letters of some operators. -/
def wordsBehindNumber : List (List Char) :=
  ["and", "else", "for", "if", "in", "is", "or", "not"].map String.toList

def isNamePart (c : Char) : Bool := c.isAlphanum || c == '_' || 128 ≤ c.toNat

/-- A number may end before these characters. -/
def endsNumber (cs : List Char) : Bool :=
  !headIs isNamePart cs || wordsBehindNumber.any fun w => (after? w cs).isSome

/-- Digits with single marks between them, without the marks, and what follows. -/
def digitsOf (p : Char → Bool) : List Char → Option (List Char × List Char)
  | [] => some ([], [])
  | '_' :: c :: r => if p c then (digitsOf p r).map fun (ds, r) => (c :: ds, r) else none
  | c :: r =>
    if c == '_' then none
    else if p c then (digitsOf p r).map fun (ds, r) => (c :: ds, r)
    else some ([], c :: r)

/-- At least one digit. -/
def digits? (p : Char → Bool) (cs : List Char) : Option (List Char × List Char) :=
  if headIs p cs then digitsOf p cs else none

def valueIn (base : Nat) (ds : List Char) : Nat :=
  ds.foldl (fun n c => n * base + (Json.hexDigit? c).getD 0) 0

/-- A whole number in a base, behind the base's mark; marks may stand before the digits. -/
def basedNumber? (base : Nat) (p : Char → Bool) (cs : List Char) :
    Option (Constant × List Char) := do
  let (ds, r) ← digits? p (if headIs (· == '_') cs then cs.drop 1 else cs)
  if headIs Char.isDigit r || !endsNumber r then none else some (.int (valueIn base ds), r)

/-- An exponent with its sign, if there is one; the letter alone belongs to what follows. -/
def exponent? (cs : List Char) : Option (Option Int × List Char) :=
  match cs with
  | e :: r =>
    if e == 'e' || e == 'E' then
      match r with
      | '+' :: r => (digits? Char.isDigit r).map fun (ds, r) => (some (valueIn 10 ds : Int), r)
      | '-' :: r => (digits? Char.isDigit r).map fun (ds, r) => (some (-(valueIn 10 ds : Int)), r)
      | _ =>
        if headIs Char.isDigit r then
          (digits? Char.isDigit r).map fun (ds, r) => (some (valueIn 10 ds : Int), r)
        else some (none, cs)
    else some (none, cs)
  | [] => some (none, [])

/-- An imaginary number as it is written in messages: no point behind a whole number. -/
def imaginaryText (x : Float) : String :=
  let s := Number.floatText x
  (if s.endsWith ".0" then String.ofList (s.toList.take (s.length - 2)) else s) ++ "j"

/-- The number of digits that a whole decimal number may have. -/
def digitLimit : Nat := 4300

/-- The digits of a whole decimal number. One other than zero does not start with zero. -/
def isWhole (digits : List Char) : Bool :=
  if headIs (· == '0') digits then digits.all (· == '0') else digits.length ≤ digitLimit

/-- A decimal number, perhaps with a point, an exponent, or the mark of an imaginary one. -/
def decimalNumber? (cs : List Char) : Option (Constant × List Char) := do
  let (whole, r) ← if headIs Char.isDigit cs then digits? Char.isDigit cs else some ([], cs)
  let (fraction, r, hasPoint) ←
    match r with
    | '.' :: r =>
      if headIs Char.isDigit r then
        (digits? Char.isDigit r).map fun (ds, r) => (ds, r, true)
      else some ([], r, true)
    | _ => some ([], r, false)
  let (exponent, r) ← exponent? r
  let value : Float :=
    Number.float (valueIn 10 (whole ++ fraction)) (exponent.getD 0 - fraction.length)
  if headIs (fun c => c == 'j' || c == 'J') r then
    if endsNumber (r.drop 1) then some (.imaginary (imaginaryText value), r.drop 1) else none
  else if !endsNumber r then none
  else if hasPoint || exponent.isSome then some (.float (Number.floatText value), r)
  else if isWhole whole then some (.int (valueIn 10 whole), r)
  else none

def number? (cs : List Char) : Option (Constant × List Char) :=
  match cs with
  | '0' :: b :: r =>
    if b == 'x' || b == 'X' then basedNumber? 16 (fun c => (Json.hexDigit? c).isSome) r
    else if b == 'o' || b == 'O' then basedNumber? 8 (fun c => '0' ≤ c && c ≤ '7') r
    else if b == 'b' || b == 'B' then basedNumber? 2 (fun c => c == '0' || c == '1') r
    else decimalNumber? cs
  | _ => decimalNumber? cs

/-! ## Quoted texts -/

/-- The letters that may stand before quotes. -/
def isMarks (marks : List Char) : Bool :=
  ["", "r", "u", "b", "f", "br", "rb", "fr", "rf"].contains
    (String.ofList (marks.map Char.toLower))

/-- What stands up to the closing quotes, and what follows. Only three quotes may span lines. -/
def quotedBody? (quotes : List Char) : Nat → List Char → Option (List Char × List Char)
  | 0, _ => none
  | fuel + 1, cs =>
    match after? quotes cs, cs with
    | some r, _ => some ([], r)
    | none, '\\' :: c :: r => (quotedBody? quotes fuel r).map fun (body, r) => ('\\' :: c :: body, r)
    | none, c :: r =>
      if c == '\\' || (c == '\n' && quotes.length = 1) then none
      else (quotedBody? quotes fuel r).map fun (body, r) => (c :: body, r)
    | none, [] => none

/-- The quotes ahead: three of a kind, or one. -/
def quotes? (cs : List Char) : Option (List Char) :=
  match cs with
  | c :: r =>
    if c == '"' || c == '\'' then some (if (after? [c, c] r).isSome then [c, c, c] else [c]) else none
  | [] => none

/-- A quoted text with its marks. -/
def quotedText? (cs : List Char) : Option (List Char × List Char × List Char) := do
  let marks := (cs.take 2).takeWhile Char.isAlpha
  if isMarks marks then
    let r := cs.drop marks.length
    let quotes ← quotes? r
    let (body, r) ← quotedBody? quotes (r.length + 1) (r.drop quotes.length)
    pure (marks, body, r)
  else none

/-- A quoted text starts here. -/
def startsQuoted (cs : List Char) : Bool :=
  let marks := (cs.take 2).takeWhile Char.isAlpha
  isMarks marks && (quotes? (cs.drop marks.length)).isSome

/-! ## Operators -/

def operators : List String :=
  ["**=", "//=", ">>=", "<<=", "...", "!=", "%=", "&=", "**", "*=", "+=", "-=", "->", "//", "/=",
    ":=", "<<", "<=", "==", ">=", ">>", "@=", "^=", "|=", "%", "&", "(", ")", "*", "+", ",", "-",
    ".", "/", ":", ";", "<", "=", ">", "@", "[", "]", "^", "\x7b", "|", "\x7d", "~"]

def operator? (cs : List Char) : Option (String × List Char) :=
  operators.findSome? fun s => (after? s.toList cs).map fun r => (s, r)

/-! ## Lines -/

/-- The width of the open blocks, innermost first: with tabs up to every eighth column, and with
tabs that count as one. -/
structure Indentation where
  widths : List (Nat × Nat)

namespace Indentation

def none : Indentation := ⟨[]⟩

def current (i : Indentation) : Nat × Nat := i.widths.headD (0, 0)

/-- The number of blocks that may be open at once. -/
def depthLimit : Nat := 99

/-- What a line of the given width opens or closes. Both ways to count tabs have to agree. -/
def line? (i : Indentation) (width : Nat × Nat) : Option (List Lexeme × Indentation) :=
  let (column, other) := width
  let (top, otherTop) := i.current
  if column = top then if other = otherTop then some ([], i) else Option.none
  else if top < column then
    if otherTop < other && i.widths.length < depthLimit then
      some ([.indent], ⟨width :: i.widths⟩)
    else Option.none
  else
    let closed := i.widths.takeWhile fun w => column < w.1
    let rest : Indentation := ⟨i.widths.drop closed.length⟩
    if rest.current = width then some (closed.map fun _ => .dedent, rest) else Option.none

end Indentation

/-- The width of the blanks at the head of a line, and what follows them. Behind a backslash the
line goes on, and its width stays what it was. -/
def lineWidth? : Nat → Nat × Nat → Option Nat → Nat → List Char → Option ((Nat × Nat) × Nat × List Char)
  | 0, _, _, _, _ => none
  | fuel + 1, (column, other), fixed, line, cs =>
    match cs with
    | ' ' :: r => lineWidth? fuel (column + 1, other + 1) fixed line r
    | '\t' :: r => lineWidth? fuel ((column / 8 + 1) * 8, other + 1) fixed line r
    | '\x0c' :: r => lineWidth? fuel (0, 0) fixed line r
    | '\\' :: '\n' :: r =>
      let kept := match fixed with
        | some n => n
        | none => column
      if r.isEmpty then none
      else lineWidth? fuel (column, other) (if kept = 0 then none else some kept) (line + 1) r
    | _ =>
      match fixed with
      | some n => some ((n, n), line, cs)
      | none => some ((column, other), line, cs)

/-! ## The scanner -/

structure Scanner where
  rest : List Char
  line : Nat
  /-- Closing brackets that are waited for, innermost first. -/
  brackets : List Char
  indentation : Indentation
  atLineStart : Bool
  /-- The tokens so far, last one first. -/
  tokens : List Token

namespace Scanner

def push (s : Scanner) (l : Lexeme) (rest : List Char) : Scanner :=
  { s with tokens := ⟨l, s.line⟩ :: s.tokens, rest }

/-- The head of a line: its indentation counts unless it is blank or inside brackets. -/
def startLine (s : Scanner) : Option Scanner := do
  let (width, line, rest) ← lineWidth? (s.rest.length + 1) (0, 0) none s.line s.rest
  let s := { s with rest, line, atLineStart := false }
  if headIs (fun c => c == '#' || c == '\n') rest || !s.brackets.isEmpty then some s
  else
    let (lexemes, indentation) ← s.indentation.line? width
    some { s with indentation, tokens := lexemes.map (⟨·, line⟩) ++ s.tokens }

/-- A line end. It is a token unless the line is blank or inside brackets. -/
def endLine (s : Scanner) (rest : List Char) : Scanner :=
  let blank := match s.tokens with
    | [] => true
    | ⟨.newline, _⟩ :: _ | ⟨.indent, _⟩ :: _ | ⟨.dedent, _⟩ :: _ => true
    | _ => false
  let s := if blank || !s.brackets.isEmpty then { s with rest } else s.push .newline rest
  { s with line := s.line + 1, atLineStart := true }

def closing? : String → Option Char
  | "(" => some ')'
  | "[" => some ']'
  | "\x7b" => some '\x7d'
  | _ => none

def isClosing (s : String) : Bool := s == ")" || s == "]" || s == "\x7d"

/-- The number of brackets that may be open at once. -/
def bracketLimit : Nat := 200

/-- An operator; brackets have to match. -/
def operator (s : Scanner) (op : String) (rest : List Char) : Option Scanner :=
  let s := s.push (.op op) rest
  match closing? op with
  | some c =>
    if s.brackets.length < bracketLimit then some { s with brackets := c :: s.brackets } else none
  | none =>
    if isClosing op then
      match s.brackets with
      | c :: brackets => if op == String.singleton c then some { s with brackets } else none
      | [] => none
    else some s

def token (s : Scanner) : Option Scanner :=
  let cs := s.rest
  if startsQuoted cs then
    (quotedText? cs).map fun (marks, body, rest) =>
      { s.push (.text marks body) rest with line := s.line + body.countP (· == '\n') }
  else if headIs isNamePart cs && !headIs Char.isDigit cs then
    let name := cs.takeWhile isNamePart
    (Identifier.ofChars? name).map fun i => s.push (.name i) (cs.drop name.length)
  else if headIs Char.isDigit cs || (headIs (· == '.') cs && headIs Char.isDigit (cs.drop 1)) then
    (number? cs).map fun (c, rest) => s.push (.number c) rest
  else (operator? cs).bind fun (op, rest) => s.operator op rest

/-- The end of the text closes all blocks; no bracket may be open. -/
def finish (s : Scanner) : Option (List Token) :=
  if s.brackets.isEmpty then
    let closed := s.indentation.widths.map fun _ => (⟨.dedent, s.line⟩ : Token)
    some (s.tokens.reverse ++ closed ++ [⟨.stop, s.line⟩])
  else none

def run : Nat → Scanner → Option (List Token)
  | 0, _ => none
  | fuel + 1, s =>
    if s.atLineStart && !s.rest.isEmpty then s.startLine.bind (run fuel)
    else
      match s.rest with
      | [] => s.finish
      | '\n' :: r => run fuel (s.endLine r)
      | '#' :: r => run fuel { s with rest := r.dropWhile (· != '\n') }
      | '\\' :: r =>
        match r with
        | '\n' :: c :: r => run fuel { s with rest := c :: r, line := s.line + 1 }
        | _ => none
      | c :: r =>
        if c == ' ' || c == '\t' || c == '\x0c' then run fuel { s with rest := r }
        else s.token.bind (run fuel)

end Scanner

/-- The last line has an end, too. -/
def withLastLineEnd (cs : List Char) : List Char :=
  if cs.isEmpty || cs.getLast? = some '\n' then cs else cs ++ ['\n']

/-- The tokens from a given line on. -/
def Token.ofChars? (line : Nat) (cs : List Char) : Option (List Token) :=
  let cs := withLastLineEnd (unifyLineEnds cs)
  Scanner.run (2 * cs.length + 2) ⟨cs, line, [], .none, true, []⟩

/-- The tokens of a source, if it can be cut into tokens. -/
def Token.ofText? (source : String) : Option (List Token) := Token.ofChars? 1 source.toList

end Conformance.Offside
