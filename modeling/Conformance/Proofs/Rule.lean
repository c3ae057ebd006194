import Conformance.Verification

/-! # What rules answer

Every rule answers a clause with an assertion about that clause: the text and the category are
kept, the level is one of two, and only syntax makes an assertion fail.

* `Assertion.Answers`: the assertion keeps to the clause.
* `Rule.keepsToClause_standard`: those of the standard rules do.
-/

namespace Conformance
set_option autoImplicit false

/-- The assertion is about this text in this category; it is settled by syntax or left to a check at
run time, and it fails by syntax alone. -/
structure Assertion.Answers (text : String) (category : Category) (a : Assertion) : Prop where
  text_eq : a.text = text
  category_eq : a.category = category
  level_eq : a.level = .proven ∨ a.level = .instrumented
  proven_of_failed : a.passed = false → a.level = .proven

/-! ## The rules -/

namespace Rule

theorem answers_settled (text : String) (category : Category) (passed : Bool) (message : String) :
    (settled text category passed message).Answers text category :=
  ⟨rfl, rfl, .inl rfl, fun _ => rfl⟩

theorem answers_deferred (text : String) (category : Category) (message : String) :
    (deferred text category message).Answers text category :=
  ⟨rfl, rfl, .inr rfl, fun h => by simp [deferred, assertion] at h⟩

theorem answers_input (text : String) (category : Category) (evidence : Evidence) :
    (assessInput text category evidence).Answers text category := by
  unfold assessInput
  dsimp only
  split
  · exact answers_settled ..
  · split
    · exact answers_settled ..
    · split <;> exact answers_settled ..

theorem answers_guarantee (text : String) (category : Category) (evidence : Evidence) :
    (assessGuarantee text category evidence).Answers text category := by
  unfold assessGuarantee
  dsimp only
  split
  · exact answers_settled ..
  · exact answers_deferred ..

theorem answers_failureMode (text : String) (category : Category) (evidence : Evidence) :
    (assessFailureMode text category evidence).Answers text category := by
  unfold assessFailureMode
  split <;> exact answers_settled ..

theorem answers_exposureInCalls (text : String) (category : Category) (name : String)
    (settings : Settings) (calls : List Outline.CallSite) :
    (assessExposureInCalls text category name settings calls).Answers text category := by
  unfold assessExposureInCalls
  dsimp only
  split
  · exact answers_settled ..
  · split <;> exact answers_settled ..

theorem answers_exposureInText (text : String) (category : Category) (name : String)
    (settings : Settings) (source : String) :
    (assessExposureInText text category name settings source).Answers text category := by
  unfold assessExposureInText
  split
  · exact answers_settled ..
  split
  · exact answers_settled ..
  split
  · exact answers_settled ..
  · exact answers_deferred ..

theorem answers_invariant (text : String) (category : Category) (evidence : Evidence) :
    (assessInvariant text category evidence).Answers text category := by
  unfold assessInvariant
  split
  · split
    · unfold assessExposure
      split
      · exact answers_exposureInCalls ..
      · exact answers_exposureInText ..
    · exact answers_deferred ..
  · split <;> exact answers_deferred ..

/-- The rule keeps to the clause it is asked about. -/
def KeepsToClause (r : Rule) : Prop :=
  ∀ text category evidence, (r.assess text category evidence).Answers text category

theorem keepsToClause_input : input.KeepsToClause := by
  unfold KeepsToClause input
  dsimp only
  exact answers_input

theorem keepsToClause_system : system.KeepsToClause := by
  unfold system
  exact fun text category _ => answers_deferred text category _

theorem keepsToClause_guarantee : guarantee.KeepsToClause := by
  unfold guarantee
  exact answers_guarantee

theorem keepsToClause_invariant : invariant.KeepsToClause := by
  unfold invariant
  exact answers_invariant

theorem keepsToClause_failureMode : failureMode.KeepsToClause := by
  unfold failureMode
  exact answers_failureMode

theorem keepsToClause_standard {r : Rule} (h : r ∈ standard) : r.KeepsToClause := by
  simp only [standard, List.mem_cons, List.not_mem_nil, or_false] at h
  rcases h with rfl | rfl | rfl | rfl | rfl
  · exact keepsToClause_input
  · exact keepsToClause_system
  · exact keepsToClause_guarantee
  · exact keepsToClause_invariant
  · exact keepsToClause_failureMode

end Rule

end Conformance
