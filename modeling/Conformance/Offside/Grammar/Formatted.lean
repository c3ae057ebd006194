import Conformance.Offside.Grammar

/-! # Quoted texts as expressions

Quoted texts in a row are one literal. In a formatted text, expressions stand between braces, each
perhaps with a conversion and a format that may itself hold expressions.

* `Fragment`: a piece of a formatted text.
* `expressionExtent?`: how far an expression between braces reaches.
* `literal?`: the literal that quoted texts in a row stand for.
-/

namespace Conformance.Offside
set_option autoImplicit false

inductive Fragment where
  | text (cs : List Char)
  | field (value : Tree)

/-! ## The reach of an expression -/

def closingOf? : Char → Option Char
  | '(' => some ')'
  | '[' => some ']'
  | '\x7b' => some '\x7d'
  | _ => none

/-- The characters of a quoted text inside an expression, up to its closing quotes. -/
def innerText? (quotes : List Char) : List Char → Option (List Char × List Char)
  | [] => none
  | c :: r =>
    if c == '\\' then none
    else
      match Text.after? quotes (c :: r) with
      | some rest => some (quotes, rest)
      | none => (innerText? quotes r).map fun (body, rest) => (c :: body, rest)

/-- Two characters that are one comparison and do not end an expression. -/
def isComparison (c following : Char) : Bool :=
  following == '=' && (c == '!' || c == '=' || c == '<' || c == '>')

/-- The expression up to the mark that ends it, and the rest from that mark on. Brackets have to
match, and neither backslashes nor comments may stand in it. -/
def expressionExtent? : Nat → List Char → List Char → Option (List Char × List Char)
  | 0, _, _ => none
  | _, _, [] => none
  | fuel + 1, brackets, c :: r =>
    let go (taken : List Char) (brackets rest : List Char) : Option (List Char × List Char) :=
      (expressionExtent? fuel brackets rest).map fun (e, rest) => (taken ++ e, rest)
    if c == '\\' || c == '#' then none
    else if c == '\'' || c == '"' then
      let quotes := if (Text.after? [c, c] r).isSome then [c, c, c] else [c]
      (innerText? quotes (r.drop (quotes.length - 1))).bind fun (body, rest) =>
        go (quotes ++ body) brackets rest
    else
      match closingOf? c with
      | some close => go [c] (close :: brackets) r
      | none =>
        match brackets, r with
        | [], following :: rest =>
          if isComparison c following then go [c, following] [] rest
          else if c == '!' || c == ':' || c == '\x7d' || c == '=' then some ([], c :: r)
          else if c == ')' || c == ']' then none
          else go [c] [] r
        | [], [] =>
          if c == '!' || c == ':' || c == '\x7d' || c == '=' then some ([], [c]) else none
        | close :: outer, _ =>
          if c == ')' || c == ']' || c == '\x7d' then
            if c == close then go [c] outer r else none
          else go [c] brackets r

/-! ## Plain text -/

/-- A run of plain text. At top level a doubled brace stands for one. Gives what the run stands for
before its escapes are resolved, and the rest; the rest starts with a single brace or is empty. -/
def plainRun? (isRaw nested : Bool) : Nat → List Char → Option (List Char × List Char)
  | 0, _ => none
  | _, [] => some ([], [])
  | fuel + 1, c :: r =>
    let go (taken rest : List Char) : Option (List Char × List Char) :=
      (plainRun? isRaw nested fuel rest).map fun (run, rest) => (taken ++ run, rest)
    if c == '\\' && !isRaw then
      match r with
      | 'N' :: '\x7b' :: r' =>
        let name := r'.takeWhile (· != '\x7d')
        go (['\\', 'N', '\x7b'] ++ name ++ (r'.drop name.length).take 1) (r'.drop (name.length + 1))
      | d :: r' => if d == '\x7b' || d == '\x7d' then go ['\\'] r else go ['\\', d] r'
      | [] => some (['\\'], [])
    else if c == '\x7b' || c == '\x7d' then
      if nested then some ([], c :: r)
      else
        match r with
        | d :: r' =>
          if d == c then go [c] r'
          else if c == '\x7d' then none else some ([], c :: r)
        | [] => if c == '\x7d' then none else some ([], c :: r)
    else go [c] r

def resolve (isRaw : Bool) (cs : List Char) : Option (List Char) :=
  if isRaw then some cs else unescapeText cs

/-! ## Fields -/

def isBlankIn (c : Char) : Bool := c == ' ' || c == '\t' || c == '\n' || c == '\x0c'

def isSpaceIn (c : Char) : Bool := isBlankIn c || c == '\r' || c == '\x0b'

def lineEnds (cs : List Char) : Nat := cs.countP (· == '\n')

/-- Pieces of text that touch are one; empty ones are left out. -/
def joinTexts : List Fragment → List Fragment
  | [] => []
  | .text a :: rest =>
    match joinTexts rest with
    | .text b :: rest => .text (a ++ b) :: rest
    | rest => if a.isEmpty then rest else .text a :: rest
  | f :: rest => f :: joinTexts rest

def Fragment.node (marked : Bool) : Fragment → Tree
  | .text cs => .constant (.str (String.ofList cs) marked)
  | .field value => value

/-- A formatted text from its pieces. -/
def formatted (marked : Bool) (pieces : List Fragment) : Tree :=
  .form .joined ((joinTexts pieces).map fun f => some (f.node marked))

section

variable (read : List Token → Option Tree) (raw marked : Bool)

/-- The conversion behind an exclamation mark, if there is one. -/
def conversion? : List Char → Option (Option Char × List Char)
  | '!' :: c :: r => if c == 's' || c == 'r' || c == 'a' then some (some c, r) else none
  | '!' :: [] => none
  | cs => some (none, cs)

/-- The pieces of a formatted text or format from a line on, and the rest; inside a format the rest
starts with the brace that closes the field. An equals sign behind an expression shows its text. -/
def fragments? : Nat → Nat → Nat → List Char → Option (List Fragment × List Char)
  | 0, _, _, _ => none
  | fuel + 1, level, line, cs => do
    let (run, rest) ← plainRun? raw (level != 0) (cs.length + 1) cs
    let text ← resolve raw run
    match rest with
    | '\x7b' :: inner =>
      if level ≥ 2 then none
      else
        let line := line + lineEnds (cs.take (cs.length - rest.length))
        let (source, rest) ← expressionExtent? (inner.length + 1) [] inner
        if source.all isBlankIn then none
        else
          let value ← (Token.ofChars? line ('(' :: source ++ [')'])).bind read
          let (shown, rest) := match rest with
            | '=' :: r =>
              let blanks := r.takeWhile isSpaceIn
              (some (source ++ ['='] ++ blanks), r.drop blanks.length)
            | _ => (none, rest)
          let (conversion, rest) ← conversion? rest
          let here := line + lineEnds (inner.take (inner.length - rest.length))
          let (format, rest) ← (match rest with
            | ':' :: r => (fragments? fuel (level + 1) here r).map fun (pieces, r) =>
              (some (formatted marked pieces), r)
            | _ => some (none, rest) : Option (Option Tree × List Char))
          match rest with
          | '\x7d' :: r =>
            let conversion :=
              if shown.isSome && format.isNone && conversion.isNone then some 'r' else conversion
            let field := Node.form (.formatted conversion) [some value, format]
            let behind := line + lineEnds (inner.take (inner.length - r.length))
            let (more, r) ← fragments? fuel level behind r
            pure (.text (text ++ shown.getD []) :: .field field :: more, r)
          | _ => none
    | _ => pure ([.text text], rest)

/-- The pieces of a whole formatted text. -/
def formattedPieces? (line : Nat) (cs : List Char) : Option (List Fragment) :=
  match fragments? read raw marked (cs.length + 2) 0 line cs with
  | some (pieces, []) => some pieces
  | _ => none

end

/-! ## Literals -/

structure Quotation where
  marks : List Char
  body : List Char
  line : Nat

namespace Quotation

def hasMark (q : Quotation) (c : Char) : Bool := q.marks.any fun m => m.toLower == c

def isBytes (q : Quotation) : Bool := q.hasMark 'b'

def isFormatted (q : Quotation) : Bool := q.hasMark 'f'

def isRaw (q : Quotation) : Bool := q.hasMark 'r'

def pieces? (read : List Token → Option Tree) (marked : Bool) (q : Quotation) :
    Option (List Fragment) :=
  if q.isFormatted then formattedPieces? read q.isRaw marked q.line q.body
  else (resolve q.isRaw q.body).map fun cs => [.text cs]

end Quotation

def textOf : Fragment → List Char
  | .text cs => cs
  | .field _ => []

/-- The literal that quoted texts in a row stand for. All of them are bytes or none is. -/
def literal? (read : List Token → Option Tree) (qs : List Quotation) : Option Tree :=
  let marked := match qs with
    | q :: _ => q.marks == ['u']
    | [] => false
  if qs.all Quotation.isBytes then
    (qs.mapM fun q => unescapeBytes q.isRaw q.body).map fun l => .constant (.bytes l.flatten)
  else if qs.any Quotation.isBytes then none
  else do
    let pieces ← qs.mapM (Quotation.pieces? read marked)
    if qs.any Quotation.isFormatted then some (formatted marked pieces.flatten)
    else some (.constant (.str (String.ofList (pieces.flatten.flatMap textOf)) marked))

end Conformance.Offside
