import Conformance.Text.Trim

/-! # Reading position in a YAML text

* `Cursor`: what is left of a text, with the line and column reached.
* `Cursor.peek`, `Cursor.forward`: looking ahead and moving on.
* `Cursor.lineBreak?`: moving over a line end.

The end of the text is seen as a null character, which no text may hold.
-/

namespace Conformance.Yaml
set_option autoImplicit false

structure Cursor where
  rest : List Char
  index : Nat
  line : Nat
  column : Nat

/-- What can be wrong with a date or time. -/
inductive TimeFault where
  | year (n : Nat)
  | month | day | hour | minute | second
  /-- A time zone a day or more away from universal time. -/
  | zone (minutes : Int)
  deriving DecidableEq

/-- What can be wrong with a text. -/
inductive Fault where
  /-- Not well-formed, or not one document of known types. -/
  | malformed
  /-- An escape beyond the last code point. -/
  | noCodePoint
  /-- A date or time that does not exist. -/
  | noSuchTime (fault : TimeFault)
  /-- A whole number that cannot be read in its base. -/
  | noInteger (base : Nat) (text : String)
  /-- A decimal number that cannot be read. -/
  | noFloat (text : String)
  deriving DecidableEq

def endMark : Char := '\x00'

def isLineEnd (c : Char) : Bool :=
  c == '\r' || c == '\n' || c == '\u0085' || c == '\u2028' || c == '\u2029'

/-- A line end or the end of the text. -/
def isBreak (c : Char) : Bool := c == endMark || isLineEnd c

/-- A blank, a line end or the end of the text. -/
def isGap (c : Char) : Bool := c == ' ' || c == '\t' || isBreak c

/-- May follow a directive or a tag. -/
def isGapNoTab (c : Char) : Bool := c == ' ' || isBreak c

/-- Characters that a text may hold. -/
def isAllowed (c : Char) : Bool :=
  let n := c.toNat
  n = 9 || n = 10 || n = 13 || (0x20 ≤ n && n ≤ 0x7e) || n = 0x85 || (0xa0 ≤ n && n ≤ 0xfffd) ||
    0x10000 ≤ n

def isNameChar (c : Char) : Bool := c.isAlphanum || c == '-' || c == '_'

namespace Cursor

def ofText (cs : List Char) : Cursor := ⟨cs, 0, 0, 0⟩

def peekAt (cur : Cursor) (n : Nat) : Char := (cur.rest.drop n).headD endMark

def peek (cur : Cursor) : Char := cur.rest.headD endMark

/-- Moves over one character. A carriage return ends the line unless a line feed follows; a
byte-order mark takes no column. -/
def next (cur : Cursor) : Cursor :=
  match cur.rest with
  | [] => cur
  | c :: rest =>
    let ends := c == '\n' || c == '\u0085' || c == '\u2028' || c == '\u2029' ||
      (c == '\r' && rest.headD endMark != '\n')
    if ends then ⟨rest, cur.index + 1, cur.line + 1, 0⟩
    else ⟨rest, cur.index + 1, cur.line, if c == '\ufeff' then cur.column else cur.column + 1⟩

def forward : Nat → Cursor → Cursor
  | 0, cur => cur
  | n + 1, cur => forward n cur.next

/-- The characters ahead that satisfy `p`. -/
def ahead (cur : Cursor) (p : Char → Bool) : List Char := cur.rest.takeWhile p

/-- Moves over the characters that satisfy `p`. -/
def skip (cur : Cursor) (p : Char → Bool) : Cursor := cur.forward (cur.ahead p).length

/-- Moves over characters that satisfy `p` while the column is less than `limit`. -/
def skipTo (cur : Cursor) (limit : Nat) (p : Char → Bool) : Cursor :=
  cur.forward ((cur.ahead p).take (limit - cur.column)).length

def startsWith (cur : Cursor) (s : List Char) : Bool := (Text.after? s cur.rest).isSome

/-- The line end ahead, as it counts in a text, and the position behind it. -/
def lineBreak? (cur : Cursor) : Option (Char × Cursor) :=
  let c := cur.peek
  if c == '\r' || c == '\n' || c == '\u0085' then
    some ('\n', if cur.startsWith ['\r', '\n'] then cur.forward 2 else cur.next)
  else if c == '\u2028' || c == '\u2029' then some (c, cur.next)
  else none

/-- A document separator stands ahead. -/
def atSeparator (cur : Cursor) : Bool :=
  (cur.startsWith ['-', '-', '-'] || cur.startsWith ['.', '.', '.']) && isGap (cur.peekAt 3)

/-- Moves over blanks and a comment to the end of the line and over it. -/
def restOfLine? (cur : Cursor) : Option Cursor :=
  let cur := cur.skip (· == ' ')
  let cur := if cur.peek == '#' then cur.skip fun c => !isBreak c else cur
  match cur.lineBreak? with
  | some (_, cur) => some cur
  | none => if cur.peek == endMark then some cur else none

end Cursor

end Conformance.Yaml
