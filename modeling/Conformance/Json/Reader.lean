import Conformance.Value
import Conformance.Number.Text
import Conformance.Text.Trim

/-! # Reading JSON

The strict grammar, with `NaN` and the infinities as further numbers. Comments, trailing commas and
a byte-order mark are refused. Of equal keys the first gives the place and the last the value.

* `Json.read?`: the value of a document. The readers of parts return the part and what follows it.
-/

namespace Conformance.Json
open Text Number
set_option autoImplicit false

def isBlank (c : Char) : Bool := c == ' ' || c == '\t' || c == '\n' || c == '\r'

def skipBlanks (cs : List Char) : List Char := cs.dropWhile isBlank

def hexDigit? (c : Char) : Option Nat :=
  if c.isDigit then some (c.toNat - 48)
  else if 'a' ≤ c && c ≤ 'f' then some (c.toNat - 87)
  else if 'A' ≤ c && c ≤ 'F' then some (c.toNat - 55)
  else none

def hex4? : List Char → Option (Nat × List Char)
  | a :: b :: c :: d :: r => do
    let a ← hexDigit? a
    let b ← hexDigit? b
    let c ← hexDigit? c
    let d ← hexDigit? d
    pure (((a * 16 + b) * 16 + c) * 16 + d, r)
  | _ => none

def shortEscape? : Char → Option Char
  | '"' => some '"'
  | '\\' => some '\\'
  | '/' => some '/'
  | 'b' => some '\x08'
  | 'f' => some '\x0c'
  | 'n' => some '\n'
  | 'r' => some '\r'
  | 't' => some '\t'
  | _ => none

/-- A code point written in one or, for a surrogate pair, two escapes. A surrogate without its
partner becomes the replacement character. -/
def codePoint (high : Nat) (rest : List Char) : Char × List Char :=
  if 0xd800 ≤ high && high < 0xdc00 then
    match (after? ['\\', 'u'] rest).bind hex4? with
    | some (low, rest') =>
      if 0xdc00 ≤ low && low < 0xe000 then
        (Char.ofNat (0x10000 + (high - 0xd800) * 1024 + (low - 0xdc00)), rest')
      else ('\ufffd', rest)
    | none => ('\ufffd', rest)
  else if 0xdc00 ≤ high && high < 0xe000 then ('\ufffd', rest)
  else (Char.ofNat high, rest)

/-- The characters up to the closing quote; `fuel` bounds their number. -/
def stringBody? : Nat → List Char → List Char → Option (String × List Char)
  | 0, _, _ => none
  | _, _, [] => none
  | fuel + 1, done, c :: r =>
    if c = '"' then some (String.ofList done.reverse, r)
    else if c.toNat < 32 then none
    else if c = '\\' then
      match r with
      | 'u' :: r => do
        let (n, r) ← hex4? r
        let (c, r) := codePoint n r
        stringBody? fuel (c :: done) r
      | e :: r => do stringBody? fuel ((← shortEscape? e) :: done) r
      | [] => none
    else stringBody? fuel (c :: done) r

def naturalOf (digits : List Char) : Nat :=
  digits.foldl (fun n c => n * 10 + (c.toNat - 48)) 0

/-- A number without its sign: an integer, unless a fraction or an exponent follows. -/
def unsigned? (negative : Bool) (cs : List Char) : Option (Scalar × List Char) :=
  let digits := cs.takeWhile Char.isDigit
  let whole := if headIs (· == '0') digits then ['0'] else digits
  let rest := cs.drop whole.length
  if whole.isEmpty then none
  else
    let (fraction, rest) :=
      match rest with
      | '.' :: r =>
        let part := r.takeWhile Char.isDigit
        if part.isEmpty then ([], rest) else (part, r.drop part.length)
      | _ => ([], rest)
    let exponent : Option (Int × List Char) :=
      match rest with
      | e :: r =>
        if e = 'e' || e = 'E' then
          let (sign, r) := match r with
            | '-' :: r => (-1, r)
            | '+' :: r => (1, r)
            | _ => ((1 : Int), r)
          let part := r.takeWhile Char.isDigit
          if part.isEmpty then none else some (sign * (naturalOf part : Int), r.drop part.length)
        else none
      | [] => none
    if fraction.isEmpty && exponent.isNone then
      let n := (naturalOf whole : Int)
      some (.int (if negative then -n else n), rest)
    else
      let (scale, rest) := exponent.getD (0, rest)
      let x := float (naturalOf (whole ++ fraction)) (scale - fraction.length)
      some (.float (if negative then -x else x), rest)

def infinity : Float := 1.0 / 0.0

def literals : List (String × Scalar) :=
  [("null", .null), ("true", .bool true), ("false", .bool false), ("NaN", .float (0.0 / 0.0)),
    ("Infinity", .float infinity), ("-Infinity", .float (-infinity))]

def scalar? (cs : List Char) : Option (Scalar × List Char) :=
  match cs with
  | '"' :: r => (stringBody? (r.length + 1) [] r).map fun (s, r) => (.str s, r)
  | _ =>
    (literals.findSome? fun l => (after? l.1.toList cs).map fun r => (l.2, r)).or
      (match cs with
        | '-' :: r => unsigned? true r
        | _ => unsigned? false cs)

/-- The items behind the first, up to the closing bracket. -/
def moreItems? (value? : List Char → Option (Value × List Char)) : Nat → List Char → Option (List Value × List Char)
  | 0, _ => none
  | fuel + 1, cs =>
    match skipBlanks cs with
    | ']' :: r => some ([], r)
    | ',' :: r => do
      let (v, r) ← value? (skipBlanks r)
      let (vs, r) ← moreItems? value? fuel r
      pure (v :: vs, r)
    | _ => none

def entry? (value? : List Char → Option (Value × List Char)) (cs : List Char) : Option ((Scalar × Value) × List Char) :=
  match cs with
  | '"' :: r => do
    let (key, r) ← stringBody? (r.length + 1) [] r
    match skipBlanks r with
    | ':' :: r => do
      let (v, r) ← value? (skipBlanks r)
      pure ((.str key, v), r)
    | _ => none
  | _ => none

/-- The entries behind the first, up to the closing brace. -/
def moreEntries? (value? : List Char → Option (Value × List Char)) : Nat → List Char →
    Option (List (Scalar × Value) × List Char)
  | 0, _ => none
  | fuel + 1, cs =>
    match skipBlanks cs with
    | '\x7d' :: r => some ([], r)
    | ',' :: r => do
      let (e, r) ← entry? value? (skipBlanks r)
      let (es, r) ← moreEntries? value? fuel r
      pure (e :: es, r)
    | _ => none

def mapOf (entries : List (Scalar × Value)) : Value :=
  .map (entries.foldl (fun m e => Value.insert e.1 e.2 m) [])

/-- A value nested at most `fuel` deep. -/
def value? : Nat → List Char → Option (Value × List Char)
  | 0, _ => none
  | fuel + 1, cs =>
    match cs with
    | '[' :: r =>
      match skipBlanks r with
      | ']' :: r => some (.list [], r)
      | r => do
        let (v, r) ← value? fuel r
        let (vs, r) ← moreItems? (value? fuel) (r.length + 1) r
        pure (.list (v :: vs), r)
    | '\x7b' :: r =>
      match skipBlanks r with
      | '\x7d' :: r => some (.map [], r)
      | r => do
        let (e, r) ← entry? (value? fuel) r
        let (es, r) ← moreEntries? (value? fuel) (r.length + 1) r
        pure (mapOf (e :: es), r)
    | _ => (scalar? cs).map fun (s, r) => (.scalar s, r)

/-- The value of a document with nothing but blanks around it. -/
def read? (s : String) : Option Value := do
  let (v, r) ← value? (s.length + 1) (skipBlanks s.toList)
  if (skipBlanks r).isEmpty then some v else none

end Conformance.Json
