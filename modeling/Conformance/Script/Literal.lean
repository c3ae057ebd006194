import Conformance.Script.Parser

/-! # Literals of scripts

How far a literal at the head of a text reaches.

* `stringLength?`, `numberLength?`, `regexLength?`: quoted texts, numbers, patterns between slashes.
* `templateRun`: the characters of a template up to its end or a substitution.
-/

namespace Conformance.Script
open Text
set_option autoImplicit false

/-! ## Quoted texts -/

def isOctal (c : Char) : Bool := '0' ≤ c && c ≤ '7'

/-- The length of what follows a backslash. -/
def escapeLength? : List Char → Option Nat
  | [] => none
  | 'x' :: r => if (r.take 2).countP isHex = 2 then some 3 else none
  | 'u' :: '\x7b' :: r =>
    let digits := r.takeWhile isHex
    if !digits.isEmpty && headIs (· == '\x7d') (r.drop digits.length) then some (digits.length + 3)
    else none
  | 'u' :: r => if (r.take 4).countP isHex = 4 then some 5 else none
  | '\r' :: '\n' :: _ => some 2
  | c :: r => if isOctal c then some (1 + ((r.take 2).takeWhile isOctal).length) else some 1

/-- The length up to and with the closing quote. A line may not end inside. -/
def quotedLength? (quote : Char) : Nat → List Char → Option Nat
  | 0, _ => none
  | _, [] => none
  | fuel + 1, '\\' :: r => do
    let n ← escapeLength? r
    let m ← quotedLength? quote fuel (r.drop n)
    pure (1 + n + m)
  | fuel + 1, c :: r =>
    if c == quote then some 1
    else if c == '\n' || c == '\r' then none
    else (quotedLength? quote fuel r).map (1 + ·)

def stringLength? : List Char → Option Nat
  | '"' :: r => (quotedLength? '"' (r.length + 1) r).map (1 + ·)
  | '\'' :: r => (quotedLength? '\'' (r.length + 1) r).map (1 + ·)
  | _ => none

/-! ## Templates -/

/-- The length of the text up to the closing mark or the next substitution. -/
def templateRun : Nat → List Char → Option Nat
  | 0, _ => none
  | _, [] => none
  | _, '\x60' :: _ => some 0
  | _, '$' :: '\x7b' :: _ => some 0
  | fuel + 1, '\\' :: r => do
    let n ← escapeLength? r
    let m ← templateRun fuel (r.drop n)
    pure (1 + n + m)
  | fuel + 1, _ :: r => (templateRun fuel r).map (1 + ·)

/-! ## Numbers -/

/-- The length of digits with single marks between them. -/
def digitRun (p : Char → Bool) : List Char → Nat
  | [] => 0
  | '_' :: c :: r => if p c then 2 + digitRun p r else 0
  | c :: r => if p c then 1 + digitRun p r else 0

def digitsAt (p : Char → Bool) (cs : List Char) : Nat :=
  if headIs p cs then digitRun p cs else 0

/-- The length of an exponent. -/
def exponentLength : List Char → Nat
  | e :: r =>
    if e == 'e' || e == 'E' then
      let sign := if headIs (fun c => c == '+' || c == '-') r then 1 else 0
      let n := digitsAt Char.isDigit (r.drop sign)
      if n = 0 then 0 else 1 + sign + n
    else 0
  | [] => 0

/-- Digits of a base behind its two-character mark, perhaps with the mark of a large integer. -/
def basedLength (p : Char → Bool) (r : List Char) : Option Nat :=
  let n := digitsAt p r
  if n = 0 then none else some (2 + n + if headIs (· == 'n') (r.drop n) then 1 else 0)

/-- The length of a decimal number: with a point, an exponent, both, or neither. -/
def decimalLength? (cs : List Char) : Option Nat :=
  let whole := digitsAt Char.isDigit cs
  let rest := cs.drop whole
  match rest with
  | '.' :: r =>
    let part := digitsAt Char.isDigit r
    if whole = 0 && part = 0 then none
    else some (whole + 1 + part + exponentLength (r.drop part))
  | 'n' :: _ => if whole = 0 then none else some (whole + 1)
  | _ => if whole = 0 then none else some (whole + exponentLength rest)

def numberLength? (cs : List Char) : Option Nat :=
  let based : Option Nat :=
    match cs with
    | '0' :: b :: r =>
      if b == 'x' || b == 'X' then basedLength isHex r
      else if b == 'o' || b == 'O' then basedLength isOctal r
      else if b == 'b' || b == 'B' then basedLength (fun c => c == '0' || c == '1') r
      else none
    | _ => none
  based.or (decimalLength? cs)

/-! ## Patterns -/

/-- The length up to and with the closing slash. A slash inside a class does not close. -/
def slashLength? : Bool → List Char → Option Nat
  | _, [] => none
  | inClass, '\\' :: c :: r => if c == '\n' then none else (slashLength? inClass r).map (2 + ·)
  | inClass, c :: r =>
    if c == '\n' || c == '\\' then none
    else if inClass then (slashLength? (c != ']') r).map (1 + ·)
    else if c == '/' then some 1
    else (slashLength? (c == '[') r).map (1 + ·)

/-- The length of a pattern with its flags. -/
def regexLength? : List Char → Option Nat
  | '/' :: r =>
    if headIs (fun c => c == '/' || c == '*') r then none
    else (slashLength? false r).map fun n => 1 + n + ((r.drop n).takeWhile Char.isLower).length
  | _ => none

/-! ## Readers -/

/-- A literal whose length the function finds. -/
def literal (kind : String) (length? : List Char → Option Nat) : Parser Piece := do
  let cs ← Parser.ahead
  match length? cs with
  | some n => Parser.take (Kind.ofName kind) true n
  | none => failure

def string : Parser Piece := literal "string" stringLength?

def number : Parser Piece := literal "number" numberLength?

def regex : Parser Piece := literal "regex" regexLength?

/-- A template: text runs, and substitutions read by `inner`, which become nodes of the given kind. -/
def template (kind part : String) (inner : Parser (List Piece)) : Parser Piece :=
  Parser.node kind (do
    let openMark ← Parser.mark '\x60'
    let pieces ← Parser.manyPieces (do
      let cs := (← get).rest
      match cs with
      | '$' :: '\x7b' :: _ =>
        Parser.one (Parser.node part (do
          let start ← Parser.takeHere (Kind.ofName "$\x7b") false 2
          let pieces ← inner
          let stop ← Parser.symbol "\x7d"
          pure (start :: pieces ++ [stop])))
      | _ =>
        match templateRun (cs.length + 1) cs with
        | some n =>
          Parser.require (0 < n)
          Parser.one (Parser.takeHere (Kind.ofName "string_fragment") true n)
        | none => failure)
    Parser.require ((← get).rest.head? == some '\x60')
    let closeMark ← Parser.takeHere (Kind.ofName "\x60") false 1
    pure (openMark :: pieces ++ [closeMark]))

end Conformance.Script
