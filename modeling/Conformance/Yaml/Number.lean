import Conformance.Json.Reader
import Conformance.Value.Literal
import Conformance.Yaml.Cursor

/-! # Numbers in YAML

* `integer`: binary, octal, decimal, hexadecimal, or in sixtieths, with marks between digits.
* `decimal`: a float, perhaps in sixtieths; infinities and a missing number have words.

A number that is only said to be one may turn out not to be readable.
-/

namespace Conformance.Yaml
set_option autoImplicit false

/-- The text without the marks between digits. -/
def unmarked (s : String) : List Char := s.toList.filter (· != '_')

/-- The sign ahead, as a factor, and the rest. -/
def signed : List Char → Int × List Char
  | '-' :: r => (-1, r)
  | '+' :: r => (1, r)
  | cs => (1, cs)

def prefixOf : Nat → List (List Char)
  | 2 => [['0', 'b'], ['0', 'B']]
  | 8 => [['0', 'o'], ['0', 'O']]
  | 16 => [['0', 'x'], ['0', 'X']]
  | _ => []

/-- A digit in a base up to sixteen. -/
def digitIn? (base : Nat) (c : Char) : Option Nat :=
  (Json.hexDigit? c).bind fun d => if d < base then some d else none

def digitsIn? (base : Nat) (cs : List Char) : Option Nat :=
  if cs.isEmpty then none
  else cs.foldl (fun n c => n.bind fun n => (digitIn? base c).map fun d => n * base + d) (some 0)

/-- A whole number with blanks around it, a sign and the base's own mark. -/
def whole (base : Nat) (cs : List Char) : Except Fault Int :=
  let (sign, body) := signed (Text.trimBy Text.isSpace cs)
  let body := ((prefixOf base).findSome? fun p => Text.after? p body).getD body
  match digitsIn? base body with
  | some n => .ok (sign * n)
  | none => .error (.noInteger base (String.ofList cs))

/-- Each part counts sixty times what the next one counts. -/
def inSixtieths (parts : List Int) : Int := parts.foldl (fun n part => n * 60 + part) 0

def integer (s : String) : Except Fault Int :=
  let (sign, body) := signed (unmarked s)
  let scaled (n : Int) : Int := sign * n
  match body with
  | [] => .error .malformed
  | ['0'] => .ok 0
  | '0' :: 'b' :: r => (whole 2 r).map scaled
  | '0' :: 'x' :: r => (whole 16 r).map scaled
  | '0' :: _ => (whole 8 body).map scaled
  | _ =>
    if body.contains ':' then
      ((Text.splitOn ':' body).mapM (whole 10)).map fun parts => scaled (inSixtieths parts)
    else (whole 10 body).map scaled

/-- Digits with a point among them or an exponent behind them. -/
def decimalBody? (cs : List Char) : Option Float :=
  let digits := cs.takeWhile Char.isDigit
  let rest := cs.drop digits.length
  let (fraction, rest) := match rest with
    | '.' :: r => (r.takeWhile Char.isDigit, r.dropWhile Char.isDigit)
    | _ => ([], rest)
  let all := digits ++ fraction
  let value (exponent : Int) : Float :=
    Number.float (Json.naturalOf all) (exponent - fraction.length)
  if all.isEmpty then none
  else
    match rest with
    | [] => some (value 0)
    | 'e' :: r =>
      let (sign, r) := signed r
      (digitsIn? 10 r).map fun n => value (sign * n)
    | _ => none

/-- A float with blanks around it and a sign, in small letters. -/
def decimalPart (cs : List Char) : Except Fault Float :=
  let (sign, body) := signed (Text.trimBy Text.isSpace cs)
  let value :=
    if body = "inf".toList || body = "infinity".toList then some Json.infinity
    else if body = "nan".toList then some (0.0 / 0.0)
    else decimalBody? body
  match value with
  | some x => .ok (if sign < 0 then -x else x)
  | none => .error (.noFloat (String.ofList cs))

/-- Sums the parts from the last one on; each counts sixty times what the next one counts. -/
def floatInSixtieths (parts : List Float) : Float :=
  (parts.reverse.foldl (fun (sum, unit) part => (sum + part * unit, unit * 60.0)) (0.0, 1.0)).1

def decimal (s : String) : Except Fault Float :=
  let (sign, body) := signed ((unmarked s).map Char.toLower)
  let scaled (x : Float) : Float := if sign < 0 then -x else x
  if (unmarked s).isEmpty then .error .malformed
  else if body = ".inf".toList then .ok (scaled Json.infinity)
  else if body = ".nan".toList then .ok (0.0 / 0.0)
  else if body.contains ':' then
    ((Text.splitOn ':' body).mapM decimalPart).map fun parts => scaled (floatInSixtieths parts)
  else (decimalPart body).map scaled

namespace TimeFault

def message : TimeFault → String
  | year n => "year " ++ toString n ++ " is out of range"
  | month => "month must be in 1..12"
  | day => "day is out of range for month"
  | hour => "hour must be in 0..23"
  | minute => "minute must be in 0..59"
  | second => "second must be in 0..59"
  | zone minutes =>
    "offset must be a timedelta strictly between -timedelta(hours=24) and timedelta(hours=24), not "
      ++ Moment.distanceText minutes ++ "."

end TimeFault

namespace Fault

/-- The text of a fault in a scalar. -/
def message : Fault → String
  | malformed => "Invalid YAML"
  | noCodePoint => "chr() arg not in range(0x110000)"
  | noSuchTime fault => fault.message
  | noInteger base text =>
    "invalid literal for int() with base " ++ toString base ++ ": " ++
      String.ofList ((Text.quoted text).toList.take 200)
  | noFloat text => "could not convert string to float: " ++ Text.quoted text

end Fault

end Conformance.Yaml
