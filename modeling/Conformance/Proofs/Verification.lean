import Mathlib.Data.List.Forall2
import Conformance.Proofs.Rule

/-! # What verification answers

Each category has one standard rule. What a standard verifier says of an entry of a contract is
therefore a function of the entry and the evidence, and a result lists these answers in the order of
the entries, whatever the outline.

* `Rule.answer`: the answer to an entry; `answers_answer` says that it keeps to the entry.
* `Verifier.verify_standard_eq`: the result of a unit, in one equation.
* `Verifier.exists_verify_of_answers`: what holds of every answer holds along the result.
* `Verifier.verify_answers_every_entry`: every entry is answered.
-/

namespace Conformance
set_option autoImplicit false

namespace Rule

/-- The standard rule for a category. -/
def ofCategory : Category → Rule
  | .inputPrecondition => input
  | .systemPrecondition => system
  | .precondition | .successGuarantee | .failureGuarantee => guarantee
  | .invariant => invariant
  | .failureMode => failureMode

theorem find?_standard (category : Category) :
    (standard.find? fun r => r.covers category) = some (ofCategory category) := by
  cases category <;> rfl

/-- What the standard rules say of an entry. -/
def answer (evidence : Evidence) (e : Section × String) : Assertion :=
  (ofCategory (Clause.category e.2 e.1)).assess e.2 (Clause.category e.2 e.1) evidence

theorem answers_answer (evidence : Evidence) (e : Section × String) :
    (answer evidence e).Answers e.2 (Clause.category e.2 e.1) := by
  have h : ofCategory (Clause.category e.2 e.1) ∈ standard :=
    List.mem_of_find?_eq_some (find?_standard _)
  exact keepsToClause_standard h ..

/-! ## What syntax always settles -/

theorem level_input (text : String) (category : Category) (evidence : Evidence) :
    (assessInput text category evidence).level = .proven := by
  unfold assessInput
  dsimp only
  split
  · rfl
  · split
    · rfl
    · split <;> rfl

theorem level_failureMode (text : String) (category : Category) (evidence : Evidence) :
    (assessFailureMode text category evidence).level = .proven := by
  unfold assessFailureMode
  split <;> rfl

end Rule

/-! ## A contract's entries -/

namespace Contract

theorem entries_eq (c : Contract) :
    c.entries = c.requires.map (fun t => (.requires, t)) ++ c.onSuccess.map (fun t => (.onSuccess, t)) ++
      c.onFailure.map (fun t => (.onFailure, t)) ++ c.invariants.map (fun t => (.invariants, t)) ++
      c.fails.map (fun f => (.fails, f.errorType)) := by
  simp [entries, Section.all, texts, List.append_assoc]

end Contract

/-! ## Results -/

namespace Verifier

theorem assess_standard_eq (settings : Settings) (evidence : Evidence) (e : Section × String) :
    ({ settings : Verifier }).assess e.2 (Clause.category e.2 e.1) evidence =
      .ok (Rule.answer evidence e) := by
  simp only [assess, Rule.find?_standard, Rule.answer]

theorem assessAll_standard_eq (settings : Settings) (evidence : Evidence)
    (entries : List (Section × String)) :
    ({ settings : Verifier }).assessAll evidence entries =
      .ok (entries.map (Rule.answer evidence)) := by
  induction entries with
  | nil => rfl
  | cons e rest ih => simp only [assessAll, assess_standard_eq, ih, List.map_cons]

theorem verify_standard_eq (settings : Settings) (u : Implementation) (outline : Option Outline) :
    let assertions := u.contract.entries.map (Rule.answer ⟨u.text, outline, settings⟩)
    ({ settings : Verifier }).verify u outline =
      .ok {
        unitId := u.id
        status := if assertions.all Assertion.passed then .proven else .failed
        assertions
        advisories := u.contract.advisories } := by
  simp only [verify, assessAll_standard_eq]

theorem exists_verify_of_answers {settings : Settings} {u : Implementation}
    {outline : Option Outline} {P : Section × String → Assertion → Prop}
    (h : ∀ e, P e (Rule.answer ⟨u.text, outline, settings⟩ e)) :
    ∃ r, ({ settings : Verifier }).verify u outline = .ok r ∧
      List.Forall₂ P u.contract.entries r.assertions := by
  refine ⟨_, verify_standard_eq settings u outline, ?_⟩
  rw [List.forall₂_map_right_iff, List.forall₂_same]
  exact fun e _ => h e

/-! ## Every entry -/

/-- Each entry has its assertion. -/
def AnswersEntry (e : Section × String) (a : Assertion) : Prop :=
  a.Answers e.2 (Clause.category e.2 e.1)

/-- What a standard verifier makes of a unit. -/
structure Verdict (u : Implementation) (r : Result) : Prop where
  unitId_eq : r.unitId = u.id
  advisories_eq : r.advisories = u.contract.advisories
  answered : List.Forall₂ AnswersEntry u.contract.entries r.assertions
  status_eq : r.status = if r.assertions.all Assertion.passed then .proven else .failed

theorem verify_standard (settings : Settings) (u : Implementation) (outline : Option Outline) :
    ∃ r, ({ settings : Verifier }).verify u outline = .ok r ∧ Verdict u r := by
  refine ⟨_, verify_standard_eq settings u outline, rfl, rfl, ?_, rfl⟩
  rw [List.forall₂_map_right_iff, List.forall₂_same]
  exact fun e _ => Rule.answers_answer _ e

namespace Verdict

variable {u : Implementation} {r : Result}

theorem length_assertions (h : Verdict u r) : r.assertions.length = u.contract.clauseCount := by
  rw [← h.answered.length_eq, Contract.length_entries]

theorem status_proven_iff (h : Verdict u r) :
    r.status = .proven ↔ ∀ a ∈ r.assertions, a.passed = true := by
  rw [h.status_eq, ← List.all_eq_true]
  split <;> simp_all

theorem status_failed_iff (h : Verdict u r) :
    r.status = .failed ↔ ∃ a ∈ r.assertions, a.passed = false := by
  rw [h.status_eq]
  split <;> simp_all

end Verdict

/-- **Every entry is answered.** -/
theorem verify_answers_every_entry (settings : Settings) (u : Implementation)
    (outline : Option Outline) :
    ∃ r, ({ settings : Verifier }).verify u outline = .ok r ∧
      List.Forall₂ (fun e a => a.Answers e.2 (Clause.category e.2 e.1))
        (u.contract.requires.map (fun t => (Section.requires, t)) ++
          u.contract.onSuccess.map (fun t => (Section.onSuccess, t)) ++
          u.contract.onFailure.map (fun t => (Section.onFailure, t)) ++
          u.contract.invariants.map (fun t => (Section.invariants, t)) ++
          u.contract.fails.map (fun f => (Section.fails, f.errorType)))
        r.assertions ∧
      r.assertions.length = u.contract.clauseCount ∧
      r.unitId = u.id ∧ r.advisories = u.contract.advisories ∧
      (r.status = .proven ↔ ∀ a ∈ r.assertions, a.passed = true) ∧
      (r.status = .failed ↔ ∃ a ∈ r.assertions, a.passed = false) := by
  obtain ⟨r, hr, h⟩ := verify_standard settings u outline
  have answered := h.answered
  rw [Contract.entries_eq] at answered
  exact ⟨r, hr, answered, h.length_assertions, h.unitId_eq, h.advisories_eq, h.status_proven_iff,
    h.status_failed_iff⟩

end Verifier

end Conformance
