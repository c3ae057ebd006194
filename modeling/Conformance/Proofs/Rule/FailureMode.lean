import Conformance.Proofs.Text.WholeWord
import Conformance.Proofs.Verification.Outline

/-! # Declared failures

Syntax alone settles whether a declared failure is named: the text decides, and an outline can only
add to the message.

* `Rule.answer_failureMode`: the answer to a declared failure.
* `Verifier.verify_failureMode`: the assertions on declared failures in a unit's result.
-/

namespace Conformance
open Text
set_option autoImplicit false

/-- Only the section of declared failures has their category. -/
theorem Clause.category_eq_failureMode_iff (clause : String) (s : Section) :
    Clause.category clause s = .failureMode ↔ s = .fails := by
  cases s with
  | requires =>
    simp only [Clause.category]
    split
    · simp
    · split <;> simp
  | onSuccess | onFailure | invariants | fails => simp [Clause.category]

namespace Rule

/-- A declared failure is settled by whether its name occurs. -/
theorem answer_failureMode (evidence : Evidence) {e : Section × String}
    (h : Clause.category e.2 e.1 = .failureMode) :
    (answer evidence e).level = .proven ∧
      ((answer evidence e).passed = true ↔ Occurs e.2 evidence.source) := by
  have hanswer : answer evidence e = assessFailureMode e.2 .failureMode evidence := by
    unfold answer
    rw [h]
    rfl
  rw [hanswer, passed_failureMode]
  exact ⟨level_failureMode _ _ _, containsWord_iff_occurs⟩

end Rule

namespace Verifier

variable {u : Implementation} {r : Result}

/-- One failed assertion fails the unit. -/
theorem status_eq_failed {settings : Settings} {outline : Option Outline}
    (h : ({ settings : Verifier }).verify u outline = .ok r) {e : Section × String}
    (he : e ∈ u.contract.entries)
    (hfailed : (Rule.answer ⟨u.text, outline, settings⟩ e).passed = false) : r.status = .failed := by
  rw [verify_standard_eq] at h
  cases h
  refine if_neg fun hall => ?_
  have hpassed := List.all_eq_true.1 hall _ (List.mem_map_of_mem he)
  rw [hfailed] at hpassed
  cases hpassed

/-- **A declared failure has to be named in the text.** Its assertion is settled by syntax and passes
exactly if the error type stands in the text as a whole word; one error type that does not fails the
unit. Another outline changes none of this. -/
theorem verify_failureMode (settings : Settings) (u : Implementation) (outline : Option Outline) :
    ∃ r, ({ settings : Verifier }).verify u outline = .ok r ∧
      List.Forall₂ (fun e a => e.1 = .fails →
          a.level = .proven ∧ (a.passed = true ↔ Occurs e.2 u.text))
        u.contract.entries r.assertions ∧
      ((∃ f ∈ u.contract.fails, ¬ Occurs f.errorType u.text) → r.status = .failed) ∧
      (∀ other, ∃ s, ({ settings : Verifier }).verify u other = .ok s ∧
        List.Forall₂ (fun a b => a.category = .failureMode →
          b.level = a.level ∧ b.passed = a.passed) r.assertions s.assertions) ∧
      ∀ text word, containsWord text word = true ↔ Occurs word text := by
  refine ⟨_, verify_standard_eq settings u outline, ?_, ?_, fun other =>
    ⟨_, verify_standard_eq settings u other, ?_⟩, fun _ _ => containsWord_iff_occurs⟩
  · rw [List.forall₂_map_right_iff, List.forall₂_same]
    exact fun e _ he => Rule.answer_failureMode _ ((Clause.category_eq_failureMode_iff _ _).2 he)
  · rintro ⟨f, hf, hnot⟩
    have he : (Section.fails, f.errorType) ∈ u.contract.entries := by
      rw [Contract.entries_eq]
      exact List.mem_append_right _ (List.mem_map_of_mem hf)
    refine status_eq_failed (verify_standard_eq settings u outline) he ?_
    rw [← Bool.not_eq_true, (Rule.answer_failureMode _ rfl).2]
    exact hnot
  · rw [List.forall₂_map_left_iff, List.forall₂_map_right_iff, List.forall₂_same]
    intro e _ hcategory
    rw [(Rule.answers_answer _ e).category_eq] at hcategory
    obtain ⟨hlevel, hpassed⟩ := Rule.answer_failureMode ⟨u.text, outline, settings⟩ hcategory
    obtain ⟨hlevel', hpassed'⟩ := Rule.answer_failureMode ⟨u.text, other, settings⟩ hcategory
    exact ⟨hlevel'.trans hlevel.symm, Bool.eq_iff_iff.2 (hpassed'.trans hpassed.symm)⟩

/-- An error type that stands only in longer names is not named. -/
theorem verify_failureMode_in_longer_names :
    let u : Implementation := ⟨"a.b", "", { Contract.empty with fails := [⟨"Lost", "retry"⟩] },
      "throw new LostError($Lost)", none, .typescript⟩
    ∃ r a, ({} : Verifier).verify u none = .ok r ∧ r.assertions = [a] ∧ a.level = .proven ∧
      a.passed = false ∧ r.status = .failed := by
  intro u
  obtain ⟨r, hr, hassertions, hstatus, -, hword⟩ := verify_failureMode {} u none
  have hnot : ¬ Occurs "Lost" u.text := by
    rw [← hword]
    decide
  obtain ⟨a, rest, ha, hrest, heq⟩ := List.forall₂_cons_left_iff.1 hassertions
  cases hrest
  obtain ⟨hlevel, hpassed⟩ := ha rfl
  exact ⟨r, a, hr, heq, hlevel, Bool.not_eq_true _ ▸ fun h => hnot (hpassed.1 h),
    hstatus ⟨⟨"Lost", "retry"⟩, List.mem_singleton_self _, hnot⟩⟩

end Verifier

end Conformance
