import Conformance.Contract
import Conformance.Keyed

/-! # Reports

Results of a batch are kept by unit id, in order of first appearance.

* `Batch.put`: a repeated id keeps its place and takes the new result.
* `Summary.addAssertion`, `Summary.addResult`: what one assertion and one result add to the counts.
* `Batch.summary`: the counts of units, assertions and advisories over all results.
* `Batch.blocking`: the ids whose failure blocks code emission.
* `Result.line`, `Summary.line`: the texts for a terminal.
-/

namespace Conformance
set_option autoImplicit false

/-- Results by unit id. -/
structure Batch where
  entries : List (String × Result)

namespace Batch

def put (b : Batch) (key : String) (r : Result) : Batch := ⟨Keyed.put key r b.entries⟩

def ofList (l : List (String × Result)) : Batch := ⟨Keyed.ofList l⟩

def results (b : Batch) : List Result := b.entries.map Prod.snd

/-- The ids of the units that failed, in ascending order. -/
def blocking (b : Batch) : List String :=
  ((b.entries.filter fun e => !e.2.passed).map Prod.fst).mergeSort fun a c => a ≤ c

end Batch

/-- Counts over a batch. -/
structure Summary where
  totalUnits : Nat
  provenUnits : Nat
  failedUnits : Nat
  totalAssertions : Nat
  failedAssertions : Nat
  byLevel : Level → Nat
  advisories : Nat

namespace Summary

/-- The counts over nothing. -/
def zero : Summary := ⟨0, 0, 0, 0, 0, fun _ => 0, 0⟩

def addAssertion (s : Summary) (a : Assertion) : Summary :=
  { s with
    totalAssertions := s.totalAssertions + 1
    byLevel := fun level => if level = a.level then s.byLevel level + 1 else s.byLevel level
    failedAssertions := if a.passed then s.failedAssertions else s.failedAssertions + 1 }

/-- Counts a unit and its advisories, then its assertions one by one. -/
def addResult (s : Summary) (r : Result) : Summary :=
  r.assertions.foldl addAssertion
    { s with
      totalUnits := s.totalUnits + 1
      provenUnits := if r.passed then s.provenUnits + 1 else s.provenUnits
      failedUnits := if r.passed then s.failedUnits else s.failedUnits + 1
      advisories := s.advisories + r.advisories.length }

def allProven (s : Summary) : Bool := s.failedUnits == 0

def line (s : Summary) : String :=
  "Summary: " ++ toString s.provenUnits ++ "/" ++ toString s.totalUnits ++ " units verified" ++
    (if s.advisories = 0 then "" else ", " ++ toString s.advisories ++ " advisories")

end Summary

namespace Batch

def summary (b : Batch) : Summary := b.results.foldl Summary.addResult Summary.zero

end Batch

namespace Result

/-- One line for a unit, with its failed assertions below it if they are asked for. -/
def line (r : Result) (verbose : Bool) : String :=
  let total := toString r.assertions.length
  let failed := r.failedAssertions
  if !failed.isEmpty then
    String.intercalate "\n"
      (("x " ++ r.unitId ++ ": FAILED (" ++ toString failed.length ++ "/" ++ total ++
        " assertions failed)") ::
        (if verbose then failed.map fun a => "    - " ++ a.text ++ ": " ++ a.message else []))
  else if !r.advisories.isEmpty then
    "! " ++ r.unitId ++ ": PROVEN with " ++ toString r.advisories.length ++ " advisory"
  else "+ " ++ r.unitId ++ ": PROVEN (" ++ total ++ "/" ++ total ++ " assertions)"

end Result

end Conformance
