import Conformance.Text.Normal.CombiningClass
import Conformance.Text.Normal.Composition
import Conformance.Text.Normal.Decomposition
import Conformance.Text.Trim

/-! # Equivalent identifiers

Identifiers that are written differently and mean the same have one normal form: characters that
stand for others are taken apart, marks are put in order, and what can be written as one character
is put together again.

* `decompose`, `inOrder`, `compose`: the three steps.
* `normalIdentifier`: the normal form of an identifier.
-/

namespace Conformance.Text
set_option autoImplicit false

/-! ## Taking apart -/

/-- The words of a table, each as its first character and the rest. -/
def tableOf (lines : List String) : List (Char × List Char) :=
  lines.flatMap fun line => (splitOn ' ' line.toList).filterMap fun word =>
    match word with
    | c :: r => some (c, r)
    | [] => none

def decompositions : List (Char × List Char) := tableOf decompositionWords

/-- The first Hangul syllable, and how many there are. -/
def syllables : Nat × Nat := (0xac00, 11172)

/-- The letters of a Hangul syllable: a leading one, a vowel, and perhaps a trailing one. -/
def syllableLetters? (c : Char) : Option (List Char) :=
  let i := c.toNat - syllables.1
  if syllables.1 ≤ c.toNat && i < syllables.2 then
    let front := [Char.ofNat (0x1100 + i / 588), Char.ofNat (0x1161 + i % 588 / 28)]
    some (if i % 28 = 0 then front else front ++ [Char.ofNat (0x11a7 + i % 28)])
  else none

def decompose (c : Char) : List Char :=
  if c.toNat < 128 then [c]
  else ((syllableLetters? c).or (decompositions.lookup c)).getD [c]

/-! ## Order -/

def combiningClass (c : Char) : Nat :=
  if c.toNat < 128 then 0
  else ((combiningClasses.find? fun r => r.1 ≤ c.toNat && c.toNat ≤ r.2.1).map fun r => r.2.2).getD 0

/-- Puts a mark behind the marks of its own class or a lower one. -/
def insertMark (c : Char) : List Char → List Char
  | [] => [c]
  | d :: r =>
    if combiningClass d ≠ 0 && combiningClass d < combiningClass c then d :: insertMark c r
    else c :: d :: r

/-- The characters with the marks behind each one in the order of their classes. -/
def inOrder : List Char → List Char
  | [] => []
  | c :: r => if combiningClass c = 0 then c :: inOrder r else insertMark c (inOrder r)

/-! ## Putting together -/

def compositions : List (List Char × Char) := (tableOf compositionWords).map fun e => (e.2, e.1)

/-- The syllable of two Hangul letters, or of a syllable without a trailing letter and one. -/
def syllableOf? (a b : Char) : Option Char :=
  let (first, number) := syllables
  let i := a.toNat - first
  if 0x1100 ≤ a.toNat && a.toNat < 0x1113 && 0x1161 ≤ b.toNat && b.toNat < 0x1176 then
    some (Char.ofNat (first + ((a.toNat - 0x1100) * 21 + (b.toNat - 0x1161)) * 28))
  else if first ≤ a.toNat && i < number && i % 28 = 0 && 0x11a7 < b.toNat && b.toNat < 0x11c3 then
    some (Char.ofNat (a.toNat + (b.toNat - 0x11a7)))
  else none

def pair? (a b : Char) : Option Char := (syllableOf? a b).or (compositions.lookup [a, b])

/-- Characters behind a base, with the marks between that stay on their own, last one first. A mark
is blocked by one of its own class or a higher one between it and the base. -/
def composeFrom (base : Char) : List Char → List Char → List Char
  | marks, [] => base :: marks.reverse
  | marks, c :: r =>
    let blocked := match marks with
      | [] => false
      | m :: _ => combiningClass c ≤ combiningClass m
    match if blocked then none else pair? base c with
    | some both => composeFrom both marks r
    | none =>
      if combiningClass c = 0 then base :: marks.reverse ++ composeFrom c [] r
      else composeFrom base (c :: marks) r

def compose : List Char → List Char
  | [] => []
  | c :: r => composeFrom c [] r

/-! ## The normal form -/

/-- The normal form of an identifier. Identifiers in ASCII have it. -/
def normalIdentifier (s : String) : String :=
  if s.toList.all fun c => c.toNat < 128 then s
  else String.ofList (compose (inOrder (s.toList.flatMap decompose)))

end Conformance.Text
