/-! # Shortest decimals

The decimal with the fewest digits that reads back to a given binary fraction, the nearest one of
those. A binary fraction is `mantissa * 2 ^ exponent`; the numbers that round to it form an
interval, whose ends belong to it exactly when the mantissa is even.

* `Binary.ofFloat`: the fraction that a finite float stands for, its sign apart.
* `Binary.readsBack`: whether a decimal lies in the interval.
* `Binary.shortest`: the decimal, found on the coarsest power-of-ten grid that has a point in the
  interval.
-/

namespace Conformance.Number
set_option autoImplicit false

structure Binary where
  mantissa : Nat
  exponent : Int
  /-- The gap to the next smaller float is half of that to the next greater one. -/
  narrowBelow : Bool

/-- The number `digits * 10 ^ scale`. -/
structure Decimal where
  digits : Nat
  scale : Int
  deriving DecidableEq, Repr

def Binary.ofFloat (x : Float) : Binary :=
  let bits := x.toBits.toNat
  let fraction : Nat := bits % Nat.pow 2 52
  let biased : Nat := bits / Nat.pow 2 52 % Nat.pow 2 11
  if biased = 0 then ⟨fraction, -1074, false⟩
  else ⟨Nat.pow 2 52 + fraction, (biased : Int) - 1075, fraction = 0 && biased > 1⟩

/-- The fraction `a * 2 ^ f / (d * 10 ^ e)` as a quotient of natural numbers. -/
def quotient (a : Nat) (f : Int) (d : Nat) (e : Int) : Nat × Nat :=
  (a * Nat.pow 2 f.toNat * Nat.pow 10 (-e).toNat, d * Nat.pow 10 e.toNat * Nat.pow 2 (-f).toNat)

namespace Binary

/-- The decimal lies between the halfway points to the two neighbours. -/
def readsBack (b : Binary) (x : Decimal) : Bool :=
  let margin := if b.narrowBelow then 1 else 2
  let low := quotient (4 * b.mantissa - margin) (b.exponent - 2) x.digits x.scale
  let high := quotient (4 * b.mantissa + 2) (b.exponent - 2) x.digits x.scale
  if b.mantissa % 2 = 0 then low.1 ≤ low.2 && high.2 ≤ high.1
  else low.1 < low.2 && high.2 < high.1

/-- An estimate of the least `k` with the fraction below `10 ^ k`. -/
def magnitude (b : Binary) : Int :=
  let guess : Int := ((b.mantissa.log2 : Int) + b.exponent) * 30103 / 100000
  let scales := (List.range 5).map fun (i : Nat) => guess - 1 + (i : Int)
  (scales.find? fun k =>
    let v := quotient b.mantissa b.exponent 1 k
    v.1 < v.2).getD (guess + 2)

/-- The points of the grid `10 ^ scale` next to the fraction that read back, the nearer first. -/
def neighbours (b : Binary) (scale : Int) : List Decimal :=
  let v := quotient b.mantissa b.exponent 1 scale
  let below := v.1 / v.2
  let rest := 2 * (v.1 % v.2)
  let downFirst := rest < v.2 || (rest = v.2 && below % 2 = 0)
  let points := if downFirst then [below, below + 1] else [below + 1, below]
  (points.map fun d => (⟨d, scale⟩ : Decimal)).filter b.readsBack

/-- Moves trailing zeros from the digits into the scale, at most `fuel` of them. -/
def strip : Nat → Decimal → Decimal
  | 0, x => x
  | fuel + 1, x =>
    if x.digits % 10 = 0 && x.digits ≠ 0 then strip fuel ⟨x.digits / 10, x.scale + 1⟩ else x

/-- For a fraction that is not zero. Seventeen digits always suffice. -/
def shortest (b : Binary) : Decimal :=
  let k := b.magnitude
  let found := (List.range 17).findSome? fun (n : Nat) => (b.neighbours (k - (n : Int) - 1)).head?
  strip 400 (found.getD
    ⟨b.mantissa * Nat.pow 2 b.exponent.toNat * Nat.pow 5 (-b.exponent).toNat, min b.exponent 0⟩)

end Binary

end Conformance.Number
