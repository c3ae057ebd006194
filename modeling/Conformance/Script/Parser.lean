import Conformance.Json.Reader
import Conformance.Script.Piece

/-! # Reading tokens of scripts

A parser takes characters off the head of a text. Whether a slash starts a pattern, or two angle
brackets are one operator, depends on the place in the grammar, so tokens are read where the
grammar asks for them.

* `Cursor`, `Parser`: the text ahead with its row, and readers that may fail.
* `Cursor.gap`: the blanks and comments ahead.
* `word`, `symbol`, `mark`: tokens with a given text.
* `Cursor.endsStatement`: whether a statement may end here without a semicolon.
-/

namespace Conformance.Script
open Text
set_option autoImplicit false

structure Cursor where
  rest : List Char
  row : Nat

/-- A reader that moves on over what it reads; when it fails, nothing is moved over. -/
abbrev Parser := StateT Cursor Option

/-! ## Characters -/

def isBlank (c : Char) : Bool :=
  let n := c.toNat
  (9 ≤ n && n ≤ 13) || n = 32 || n = 0x85 || n = 0xa0 || n = 0x1680 || (0x2000 ≤ n && n ≤ 0x200b) ||
    n = 0x2028 || n = 0x2029 || n = 0x202f || n = 0x205f || n = 0x2060 || n = 0x3000 || n = 0xfeff

/-- Anything but blanks, control characters, punctuation and line ends may be part of a name. -/
def isNamePart (c : Char) : Bool :=
  !(isBlank c || c.toNat < 32 || ":;\x60\"'@#.,|^&<=>+-*/\\%?!~()[]\x7b\x7d".toList.contains c)

def isNameHead (c : Char) : Bool := isNamePart c && !c.isDigit

def isHex (c : Char) : Bool := (Json.hexDigit? c).isSome

/-- The length of the escape at the head that stands for a part of a name. -/
def nameEscapeLength : List Char → Nat
  | '\\' :: 'u' :: '\x7b' :: r =>
    let digits := r.takeWhile isHex
    if !digits.isEmpty && headIs (· == '\x7d') (r.drop digits.length) then digits.length + 4 else 0
  | '\\' :: 'u' :: r => if (r.take 4).countP isHex = 4 then 6 else 0
  | _ => 0

/-- A name may start here. -/
def startsName (cs : List Char) : Bool := headIs isNameHead cs || nameEscapeLength cs != 0

/-- How far the parts of a name reach; `within` characters of an escape are still to come. -/
def nameLengthFrom (within : Nat) : List Char → Nat
  | [] => 0
  | c :: r =>
    if within ≠ 0 then 1 + nameLengthFrom (within - 1) r
    else if isNamePart c then 1 + nameLengthFrom 0 r
    else
      match nameEscapeLength (c :: r) with
      | 0 => 0
      | n + 1 => 1 + nameLengthFrom n r

def nameLength (cs : List Char) : Nat := if startsName cs then nameLengthFrom 0 cs else 0

def isLineFeed (c : Char) : Bool := c == '\n'

/-! ## Blanks and comments -/

/-- The text of a block comment up to its end, if it ends. -/
def blockComment? : List Char → Option (List Char)
  | [] => none
  | '*' :: '/' :: _ => some ['*', '/']
  | c :: r => (blockComment? r).map (c :: ·)

/-- The comment ahead. -/
def comment? : List Char → Option (List Char)
  | '/' :: '/' :: r => some ('/' :: '/' :: r.takeWhile fun c => c != '\n' && c != '\r')
  | '/' :: '*' :: r => (blockComment? r).map fun body => '/' :: '*' :: body
  | _ => none

namespace Cursor

def forward (cur : Cursor) (n : Nat) : Cursor :=
  ⟨cur.rest.drop n, cur.row + (cur.rest.take n).countP isLineFeed⟩

/-- Blanks and comments ahead, and the position behind them. -/
def gapFrom : Nat → List Trivia → Cursor → List Trivia × Cursor
  | 0, done, cur => (done.reverse, cur)
  | fuel + 1, done, cur =>
    let blanks := cur.rest.takeWhile isBlank
    if blanks.isEmpty then
      match comment? cur.rest with
      | some text =>
        let tree := Tree.node .comment none true (String.ofList text) cur.row []
        gapFrom fuel (.comment tree :: done) (cur.forward text.length)
      | none => (done.reverse, cur)
    else gapFrom fuel (.blank (String.ofList blanks) :: done) (cur.forward blanks.length)

def gap (cur : Cursor) : List Trivia × Cursor := cur.gapFrom cur.rest.length []

/-- The characters behind blanks and comments. -/
def ahead (cur : Cursor) : List Char := cur.gap.2.rest

/-- A line ends before the next token. -/
def lineEndsAhead (cur : Cursor) : Bool :=
  cur.gap.1.any fun t => t.text.toList.any isLineFeed

/-! ## Statements that end without a semicolon -/

/-- What a statement that ends at a line end may be followed by. Operators go on with it, and so do
brackets if it ends with an expression (`inExpression`). -/
def startsAnew (inExpression : Bool) : List Char → Bool
  | '+' :: r => headIs (· == '+') r
  | '-' :: r => headIs (· == '-') r
  | '!' :: r => !headIs (· == '=') r
  | '(' :: _ | '[' :: _ => !inExpression
  | 'i' :: 'n' :: r =>
    if headIs Char.isAlpha r then
      match after? "stanceof".toList r with
      | some r => headIs Char.isAlpha r
      | none => true
    else false
  | c :: _ => !"\x60,.;*%><=?^|&/:".toList.contains c
  | [] => true

/-- The statement may end here: before a closing brace, at the end of the text, or at a line end
behind which something new starts. -/
def endsFrom (inExpression : Bool) : Nat → Cursor → Bool
  | 0, _ => false
  | fuel + 1, cur =>
    match cur.rest with
    | [] | '\x7d' :: _ => true
    | '\n' :: _ => startsAnew inExpression cur.ahead
    | c :: _ =>
      if isBlank c then endsFrom inExpression fuel (cur.forward 1)
      else
        match comment? cur.rest with
        | some text => endsFrom inExpression fuel (cur.forward text.length)
        | none => false

def endsStatement (inExpression : Bool) (cur : Cursor) : Bool :=
  endsFrom inExpression (cur.rest.length + 1) cur

end Cursor

/-! ## Readers -/

namespace Parser

/-- Fails unless the condition holds. -/
def require (b : Bool) : Parser PUnit := if b then pure ⟨⟩ else failure

/-- What `p` reads, or nothing if it fails. -/
def optional {α : Type} (p : Parser α) : Parser (Option α) := some <$> p <|> pure none

/-- The pieces that `p` reads, or none if it fails. -/
def orNone (p : Parser (List Piece)) : Parser (List Piece) := p <|> pure []

/-- As often as `p` reads something; `fuel` bounds the number. -/
def manyUpTo {α : Type} (p : Parser α) : Nat → Parser (List α)
  | 0 => pure []
  | fuel + 1 =>
    (do
      let before := (← get).rest.length
      let a ← p
      require ((← get).rest.length < before)
      let rest ← manyUpTo p fuel
      pure (a :: rest)) <|> pure []

def many {α : Type} (p : Parser α) : Parser (List α) := do manyUpTo p (← get).rest.length

/-- The pieces of a row, as long as `p` reads something. -/
def manyPieces (p : Parser (List Piece)) : Parser (List Piece) := List.flatten <$> many p

def one (p : Parser Piece) : Parser (List Piece) := (fun x => [x]) <$> p

def maybe (p : Parser Piece) : Parser (List Piece) := orNone (one p)

/-- The characters behind blanks and comments, not moved over. -/
def ahead : Parser (List Char) := do pure (← get).ahead

def aheadIs (p : Char → Bool) : Parser Bool := do pure (headIs p (← ahead))

def sameLine : Parser PUnit := do require (!(← get).lineEndsAhead)

/-- A token of `n` characters behind the gap. -/
def take (kind : Kind) (isNamed : Bool) (n : Nat) : Parser Piece := do
  let (lead, cur) := (← get).gap
  set (cur.forward n)
  pure (Piece.token lead kind isNamed (String.ofList (cur.rest.take n)) cur.row)

/-- Characters at once, without a gap before them. -/
def takeHere (kind : Kind) (isNamed : Bool) (n : Nat) : Parser Piece := do
  let cur ← get
  set (cur.forward n)
  pure (Piece.token [] kind isNamed (String.ofList (cur.rest.take n)) cur.row)

/-- The name or keyword ahead. -/
def peekWord : Parser String := do
  let cs ← ahead
  pure (String.ofList (cs.take (nameLength cs)))

/-- A given keyword. -/
def word (s : String) : Parser Piece := do
  require ((← peekWord) == s)
  take (Kind.ofName s) false s.length

def oneOfWords (l : List String) : Parser Piece := do
  let w ← peekWord
  require (l.contains w)
  take (Kind.ofName w) false w.length

/-- A name as the given kind of node. -/
def name (kind : Kind) : Parser Piece := do
  let w ← peekWord
  require (!w.isEmpty)
  take kind true w.length

def operators : List String :=
  [">>>=", "...", "===", "!==", ">>>", "<<=", ">>=", "**=", "&&=", "||=", "??=", "=>", "==", "!=",
    "<=", ">=", "&&", "||", "??", "?.", "++", "--", "+=", "-=", "*=", "/=", "%=", "&=", "|=", "^=",
    "<<", ">>", "**", "\x7b", "\x7d", "(", ")", "[", "]", ";", ",", "<", ">", "+", "-", "*", "/",
    "%", "&", "|", "^", "!", "~", "?", ":", "=", ".", "@", "#"]

/-- The longest operator or punctuation mark at the head. Before a digit, `?.` is a question mark
and the point of a number. -/
def operatorAt (cs : List Char) : String :=
  let found := (operators.find? fun s => (after? s.toList cs).isSome).getD ""
  if found == "?." && headIs Char.isDigit (cs.drop 2) then "?" else found

def peekOperator : Parser String := do pure (operatorAt (← ahead))

/-- A given operator or mark, as the longest one that can be read. -/
def symbol (s : String) : Parser Piece := do
  require ((← peekOperator) == s)
  take (Kind.ofName s) false s.length

/-- A given character, even where a longer operator could be read. -/
def mark (c : Char) : Parser Piece := do
  require (← aheadIs (· == c))
  take (Kind.ofName (String.singleton c)) false 1

/-- One of the two readers' pieces, in this order. -/
def node (kind : String) (pieces : Parser (List Piece)) : Parser Piece := do
  pure (Piece.node (Kind.ofName kind) (← pieces))

/-- Items with a mark between them, at least one. -/
def separated (sep : Parser Piece) (item : Parser (List Piece)) : Parser (List Piece) := do
  let first ← item
  let rest ← manyPieces (do
    let s ← sep
    pure (s :: (← item)))
  pure (first ++ rest)

/-- Items with commas between them; any of them may be missing. -/
def commaList (item : Parser (List Piece)) : Parser (List Piece) := do
  separated (symbol ",") (orNone item)

/-- Pieces between two marks. -/
def between (left right : String) (inner : Parser (List Piece)) : Parser (List Piece) := do
  let l ← symbol left
  let pieces ← inner
  let r ← symbol right
  pure (l :: pieces ++ [r])

/-- The end of a statement: a semicolon, or none where the statement may end without one. -/
def semicolon (inExpression : Bool) : Parser (List Piece) := do
  if (← get).endsStatement inExpression then pure []
  else one (symbol ";")

end Parser

end Conformance.Script
