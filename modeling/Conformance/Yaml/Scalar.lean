import Conformance.Yaml.Cursor
import Conformance.Json.Reader

/-! # Scalars in a YAML text

* `plain`: an unquoted scalar; it may go on over lines that are indented deeply enough.
* `quotedScalar`: a scalar between single or double quotes.
* `blockScalar`: a literal or folded block.

Each gives the text and the position behind it. Line ends inside a scalar are folded: a single one
counts as a blank, and of several the first is dropped.
-/

namespace Conformance.Yaml
set_option autoImplicit false

/-- A text read so far, last character first, with the position behind it. -/
abbrev Read := List Char × Cursor

/-- How a run of line ends counts: the first one and those behind it. -/
def folded (first : Char) (others : List Char) : List Char :=
  if first != '\n' then first :: others
  else if others.isEmpty then [' ']
  else others

/-! ## Plain scalars -/

/-- The character ends a plain word. In a flow collection its punctuation does too. -/
def endsPlain (inFlow : Bool) (c following : Char) : Bool :=
  isGap c ||
  (c == ':' && (isGap following ||
    (inFlow && [',', '[', ']', '\x7b', '\x7d'].contains following))) ||
  (inFlow && [',', '?', '[', ']', '\x7b', '\x7d'].contains c)

/-- The length of the plain word ahead. -/
def plainLength (inFlow : Bool) : List Char → Nat
  | [] => 0
  | c :: r => if endsPlain inFlow c (r.headD endMark) then 0 else plainLength inFlow r + 1

/-- Line ends and blanks up to the next text; none if a document separator comes first. -/
def plainBreaks : Nat → List Char → Cursor → Option (List Char × Cursor)
  | 0, _, _ => none
  | fuel + 1, breaks, cur =>
    if cur.peek == ' ' then plainBreaks fuel breaks cur.next
    else
      match cur.lineBreak? with
      | some (c, cur) => if cur.atSeparator then none else plainBreaks fuel (breaks ++ [c]) cur
      | none => some (breaks, cur)

/-- The blanks behind a plain word, the position behind them, and whether a line ended. No blanks
means that the scalar ends. -/
def plainGap (cur : Cursor) : List Char × Cursor × Bool :=
  let blanks := cur.ahead (· == ' ')
  let cur := cur.forward blanks.length
  match cur.lineBreak? with
  | some (first, cur) =>
    if cur.atSeparator then ([], cur, true)
    else
      match plainBreaks (cur.rest.length + 1) [] cur with
      | some (others, cur) => (folded first others, cur, true)
      | none => ([], cur, true)
  | none => (blanks, cur, false)

/-- The words of a plain scalar. `multiline` tells that a line ended behind the last word. -/
def plainWords (inFlow : Bool) (indent : Int) : Nat → List Char → List Char → Bool → Cursor →
    List Char × Cursor × Bool
  | 0, done, _, multiline, cur => (done, cur, multiline)
  | fuel + 1, done, gap, multiline, cur =>
    let n := if cur.peek == '#' then 0 else plainLength inFlow cur.rest
    if n = 0 then (done, cur, multiline)
    else
      let done := done ++ gap ++ cur.rest.take n
      let (gap, cur, ended) := plainGap (cur.forward n)
      if gap.isEmpty || cur.peek == '#' || (!inFlow && (cur.column : Int) < indent) then
        (done, cur, ended)
      else plainWords inFlow indent fuel done gap ended cur

/-- A plain scalar, the position behind it, and whether a line ended behind it. -/
def plain (inFlow : Bool) (indent : Int) (cur : Cursor) : List Char × Cursor × Bool :=
  plainWords inFlow indent (cur.rest.length + 1) [] [] false cur

/-! ## Quoted scalars -/

def escapes : List (Char × Char) :=
  [('0', '\x00'), ('a', '\x07'), ('b', '\x08'), ('t', '\t'), ('\t', '\t'), ('n', '\n'),
    ('v', '\x0b'), ('f', '\x0c'), ('r', '\r'), ('e', '\x1b'), (' ', ' '), ('"', '"'),
    ('\\', '\\'), ('/', '/'), ('N', '\u0085'), ('_', '\u00a0'), ('L', '\u2028'), ('P', '\u2029')]

/-- How many hexadecimal digits follow the escape letter. -/
def escapeWidth? : Char → Option Nat
  | 'x' => some 2
  | 'u' => some 4
  | 'U' => some 8
  | _ => none

def hexValue? (digits : List Char) : Option Nat :=
  digits.foldl (fun n c => n.bind fun n => (Json.hexDigit? c).map fun d => n * 16 + d) (some 0)

/-- Line ends between the words of a quoted scalar. -/
def quotedBreaks : Nat → List Char → Cursor → Except Fault (List Char × Cursor)
  | 0, _, _ => .error .malformed
  | fuel + 1, breaks, cur =>
    if cur.atSeparator then .error .malformed
    else
      let cur := cur.skip fun c => c == ' ' || c == '\t'
      match cur.lineBreak? with
      | some (c, cur) => quotedBreaks fuel (breaks ++ [c]) cur
      | none => .ok (breaks, cur)

/-- What stands behind a backslash in double quotes. -/
def escaped (cur : Cursor) : Except Fault (List Char × Cursor) :=
  let c := cur.peek
  match escapes.lookup c, escapeWidth? c with
  | some r, _ => .ok ([r], cur.next)
  | none, some width =>
    let digits := cur.next.rest.take width
    match (if digits.length = width then hexValue? digits else none) with
    | some n =>
      if n < 0x110000 then .ok ([Char.ofNat n], cur.forward (width + 1)) else .error .noCodePoint
    | none => .error .malformed
  | none, none =>
    match cur.lineBreak? with
    | some (_, cur) => quotedBreaks (cur.rest.length + 1) [] cur
    | none => .error .malformed

/-- The blanks or line ends between two words of a quoted scalar. -/
def quotedGap (cur : Cursor) : Except Fault (List Char × Cursor) :=
  let blanks := cur.ahead fun c => c == ' ' || c == '\t'
  let cur := cur.forward blanks.length
  if cur.peek == endMark then .error .malformed
  else
    match cur.lineBreak? with
    | some (first, cur) =>
      (quotedBreaks (cur.rest.length + 1) [] cur).map fun (others, cur) => (folded first others, cur)
    | none => .ok (blanks, cur)

/-- The characters up to the closing quote. -/
def quotedBody (double : Bool) : Nat → List Char → Cursor → Except Fault (List Char × Cursor)
  | 0, _, _ => .error .malformed
  | fuel + 1, done, cur =>
    let c := cur.peek
    if isGap c then do
      let (gap, cur) ← quotedGap cur
      quotedBody double fuel (done ++ gap) cur
    else if double then
      if c == '"' then .ok (done, cur.next)
      else if c == '\\' then do
        let (s, cur) ← escaped cur.next
        quotedBody double fuel (done ++ s) cur
      else quotedBody double fuel (done ++ [c]) cur.next
    else if c == '\'' then
      if cur.peekAt 1 == '\'' then quotedBody double fuel (done ++ [c]) (cur.forward 2)
      else .ok (done, cur.next)
    else quotedBody double fuel (done ++ [c]) cur.next

/-- A quoted scalar; the opening quote is ahead. -/
def quotedScalar (cur : Cursor) : Except Fault (List Char × Cursor) :=
  quotedBody (cur.peek == '"') (cur.rest.length + 1) [] cur.next

/-! ## Block scalars -/

/-- How the line ends behind a block scalar are kept. -/
inductive Chomping where
  | strip | clip | keep
  deriving DecidableEq

def chomping? : Char → Option Chomping
  | '+' => some .keep
  | '-' => some .strip
  | _ => none

/-- An indentation indicator; zero is refused. -/
def increment? (c : Char) : Option Nat := if c.isDigit then some (c.toNat - 48) else none

/-- The indicators behind `|` or `>`, in either order. -/
def blockHeader (cur : Cursor) : Except Fault (Chomping × Option Nat × Cursor) :=
  let (chomping, increment, cur) :=
    match chomping? cur.peek with
    | some m =>
      let cur := cur.next
      match increment? cur.peek with
      | some n => (m, some n, cur.next)
      | none => (m, none, cur)
    | none =>
      match increment? cur.peek with
      | some n =>
        let cur := cur.next
        match chomping? cur.peek with
        | some m => (m, some n, cur.next)
        | none => (.clip, some n, cur)
      | none => (.clip, none, cur)
  if increment = some 0 || !isGapNoTab cur.peek then .error .malformed
  else
    match cur.restOfLine? with
    | some cur => .ok (chomping, increment, cur)
    | none => .error .malformed

/-- Empty lines before the first text, and the greatest indentation among them. -/
def blockIndentation : Nat → List Char → Nat → Cursor → List Char × Nat × Cursor
  | 0, breaks, greatest, cur => (breaks, greatest, cur)
  | fuel + 1, breaks, greatest, cur =>
    if cur.peek == ' ' then
      let cur := cur.next
      blockIndentation fuel breaks (max greatest cur.column) cur
    else
      match cur.lineBreak? with
      | some (c, cur) => blockIndentation fuel (breaks ++ [c]) greatest cur
      | none => (breaks, greatest, cur)

/-- Line ends up to the next line that reaches the indentation. -/
def blockBreaks (indent : Nat) : Nat → List Char → Cursor → List Char × Cursor
  | 0, breaks, cur => (breaks, cur)
  | fuel + 1, breaks, cur =>
    let cur := cur.skipTo indent (· == ' ')
    match cur.lineBreak? with
    | some (c, cur) => blockBreaks indent fuel (breaks ++ [c]) cur
    | none => (breaks, cur)

/-- The lines of a block. `breaks` are the line ends before the next line. Gives the text, the last
line end, the line ends behind it, and the position. -/
def blockLines (fold : Bool) (indent : Nat) : Nat → List Char → List Char → Cursor →
    List Char × Option Char × List Char × Cursor
  | 0, done, breaks, cur => (done, none, breaks, cur)
  | fuel + 1, done, breaks, cur =>
    let content := cur.ahead fun c => !isBreak c
    let indented := cur.peek == ' ' || cur.peek == '\t'
    let done := done ++ breaks ++ content
    let cur := cur.forward content.length
    let (ending, cur) := match cur.lineBreak? with
      | some (c, cur) => (some c, cur)
      | none => (none, cur)
    let (breaks, cur) := blockBreaks indent (cur.rest.length + 1) [] cur
    if cur.column = indent && cur.peek != endMark then
      let joins := fold && ending == some '\n' && !indented && cur.peek != ' ' && cur.peek != '\t'
      let done := if joins then (if breaks.isEmpty then done ++ [' '] else done) else done ++ ending.toList
      blockLines fold indent fuel done breaks cur
    else (done, ending, breaks, cur)

/-- A block scalar; the position is behind `|` or `>`. -/
def blockScalar (fold : Bool) (parentIndent : Int) (cur : Cursor) :
    Except Fault (List Char × Cursor) := do
  let (chomping, increment, cur) ← blockHeader cur
  let least := (max (parentIndent + 1) 1).toNat
  let fuel := cur.rest.length + 1
  let (indent, breaks, cur) :=
    match increment with
    | none =>
      let (breaks, greatest, cur) := blockIndentation fuel [] 0 cur
      (max least greatest, breaks, cur)
    | some n =>
      let indent := least + n - 1
      let (breaks, cur) := blockBreaks indent fuel [] cur
      (indent, breaks, cur)
  let (done, ending, breaks, cur) :=
    if cur.column = indent && cur.peek != endMark then blockLines fold indent fuel [] breaks cur
    else ([], none, breaks, cur)
  let done := if chomping = .strip then done else done ++ ending.toList
  pure (if chomping = .keep then done ++ breaks else done, cur)

end Conformance.Yaml
