import Conformance.Contract

/-! # Planning runtime checks

Each passing assertion that was left to run time gets one check.

* `Check.ofAssertion`: where the check goes, what it guards, and what it says when it fails.
* `Plan.make`: the checks for a unit's result.
* `Plan.summary`: the plan in words, one line per check.
-/

namespace Conformance
set_option autoImplicit false

namespace Check

def guardPrefix : Category → String
  | .inputPrecondition | .systemPrecondition | .precondition => "require"
  | .successGuarantee => "ensure on success"
  | .failureGuarantee => "ensure on failure"
  | .invariant => "invariant"
  | .failureMode => "assert"

def violationLabel : Category → String
  | .inputPrecondition | .systemPrecondition | .precondition => "Precondition"
  | .successGuarantee | .failureGuarantee => "Postcondition"
  | .invariant => "Invariant"
  | .failureMode => "Assertion"

def ofAssertion (unitId : String) (a : Assertion) : Check where
  text := a.text
  category := a.category
  level := a.level
  insertionPoint := if a.category.isPrecondition then .pre else .post
  guard := guardPrefix a.category ++ ": " ++ a.text
  errorMessage := violationLabel a.category ++ " violated in " ++ unitId ++ ": " ++ a.text

end Check

def Assertion.needsCheck (a : Assertion) : Bool := a.level == .instrumented && a.passed

/-- A result was given with a unit that it is not for. -/
structure ForeignResult where
  resultFor : String
  unitId : String
  deriving DecidableEq

namespace ForeignResult

def message (f : ForeignResult) : String :=
  "Verification result for '" ++ f.resultFor ++ "' does not belong to unit '" ++ f.unitId ++ "'"

end ForeignResult

namespace Plan

def make (u : Implementation) (r : Result) : Except ForeignResult Plan :=
  if r.unitId = u.id then
    .ok ⟨u.id, (r.assertions.filter Assertion.needsCheck).map (Check.ofAssertion u.id)⟩
  else .error ⟨r.unitId, u.id⟩

def checkLine (c : Check) : String :=
  (match c.insertionPoint with
    | .pre => "  [PRE] "
    | .post => "  [POST] ") ++ c.text

def summary (p : Plan) : String :=
  if p.checks.isEmpty then p.unitId ++ ": No runtime instrumentation needed"
  else
    String.intercalate "\n"
      ((p.unitId ++ ": " ++ toString p.checks.length ++ " runtime check(s)") ::
        p.checks.map checkLine)

end Plan

end Conformance
