import Conformance.Rule.Input
import Conformance.Rule.Guarantee
import Conformance.Rule.Invariant

/-! # Verification

Every entry of a contract is answered by the first rule that covers its category; the unit is
proven if every assertion passes.

* `Verifier.standard`: the rules that together cover every category.
* `Verifier.register`: a registered rule is asked before those there are.
* `Verifier.verify`: the result for a unit, or the first category that no rule covers.
-/

namespace Conformance
set_option autoImplicit false

def Rule.standard : List Rule :=
  [Rule.input, Rule.system, Rule.guarantee, Rule.invariant, Rule.failureMode]

structure Verifier where
  rules : List Rule := Rule.standard
  settings : Settings := {}

/-- Why a unit has no result: a category without a rule. -/
structure Uncovered where
  category : Category
  deriving DecidableEq

namespace Uncovered

def message (u : Uncovered) : String :=
  "No strategy registered for clause category: " ++ u.category.name

end Uncovered

namespace Verifier

def register (v : Verifier) (r : Rule) : Verifier := { v with rules := r :: v.rules }

/-- The answer of the first rule that covers the category. -/
def assess (v : Verifier) (text : String) (category : Category) (evidence : Evidence) :
    Except Uncovered Assertion :=
  match v.rules.find? fun r => r.covers category with
  | some r => .ok (r.assess text category evidence)
  | none => .error ⟨category⟩

/-- Answers the entries in order, up to the first that no rule covers. -/
def assessAll (v : Verifier) (evidence : Evidence) :
    List (Section × String) → Except Uncovered (List Assertion)
  | [] => .ok []
  | (s, text) :: rest =>
    match v.assess text (Clause.category text s) evidence with
    | .error e => .error e
    | .ok a =>
      match assessAll v evidence rest with
      | .error e => .error e
      | .ok as => .ok (a :: as)

def verify (v : Verifier) (u : Implementation) (outline : Option Outline) : Except Uncovered Result :=
  match v.assessAll ⟨u.text, outline, v.settings⟩ u.contract.entries with
  | .error e => .error e
  | .ok assertions =>
    .ok {
      unitId := u.id
      status := if assertions.all Assertion.passed then .proven else .failed
      assertions
      advisories := u.contract.advisories }

end Verifier

end Conformance
