import Conformance.Number.Shortest

/-! # Numbers as text

* `Notation`: how the shortest decimal of a float is laid out.
* `floatText`: a float as it is shown in messages.
* `float`: the float nearest to a decimal.
* `sixPlaces`: a ratio with six decimals.
-/

namespace Conformance.Number
set_option autoImplicit false

/-- Layout decisions for floats. A decimal point stands behind the first `point` digits. -/
structure Layout where
  /-- The least and the greatest position of the point that is written positionally. -/
  leastPoint : Int
  greatestPoint : Int
  /-- The least number of exponent digits. -/
  exponentDigits : Nat

/-- Positional from 0.0001 up to sixteen digits before the point, else with a signed exponent of
at least two digits. -/
def Layout.message : Layout := ⟨-3, 16, 2⟩

def zeros (n : Nat) : List Char := List.replicate n '0'

/-- The digits with the point behind the first `point` ones, at least one digit on either side. -/
def positional (digits : List Char) (point : Int) : List Char :=
  if point ≤ 0 then ['0', '.'] ++ zeros (-point).toNat ++ digits
  else
    let whole := digits.take point.toNat
    let part := digits.drop point.toNat
    whole ++ zeros (point.toNat - digits.length) ++ ['.'] ++ (if part.isEmpty then ['0'] else part)

def scientific (l : Layout) (digits : List Char) (point : Int) : List Char :=
  let exponent := point - 1
  let magnitude := Nat.toDigits 10 exponent.natAbs
  digits.take 1 ++ (if digits.length > 1 then '.' :: digits.drop 1 else []) ++
    ['e', if exponent < 0 then '-' else '+'] ++ zeros (l.exponentDigits - magnitude.length) ++
      magnitude

def Layout.write (l : Layout) (x : Decimal) : List Char :=
  let digits := Nat.toDigits 10 x.digits
  let point := (digits.length : Int) + x.scale
  if l.leastPoint ≤ point && point ≤ l.greatestPoint then positional digits point
  else scientific l digits point

def floatText (x : Float) : String :=
  if x.isNaN then "nan"
  else
    let sign := if x.toBits.toNat ≥ Nat.pow 2 63 then "-" else ""
    let body :=
      if x.isInf then "inf"
      else if x == 0 then "0.0"
      else String.ofList (Layout.message.write (Binary.ofFloat x).shortest)
    sign ++ body

/-- The float nearest to `digits * 10 ^ scale`. Decimals far outside the range of floats are
settled by their magnitude alone. -/
def float (digits : Nat) (scale : Int) : Float :=
  let magnitude := (digits.log2 : Int) * 30103 / 100000 + scale
  if digits = 0 || magnitude < -400 then 0.0
  else if magnitude > 400 then 1.0 / 0.0
  else if scale < 0 then Float.ofScientific digits true scale.natAbs
  else Float.ofScientific digits false scale.natAbs

/-- The quotient with six decimals, rounded to the nearest and a tie to the even digit; zero if the
divisor is zero. -/
def sixPlaces (part whole : Nat) : String :=
  let scaled := part * 1000000
  let below := scaled / whole
  let rest := 2 * (scaled % whole)
  let up := whole ≠ 0 && (rest > whole || (rest = whole && below % 2 = 1))
  let rounded := if up then below + 1 else below
  let fraction := Nat.toDigits 10 (rounded % 1000000)
  toString (rounded / 1000000) ++ "." ++ String.ofList (zeros (6 - fraction.length) ++ fraction)

end Conformance.Number
