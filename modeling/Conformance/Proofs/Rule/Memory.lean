import Conformance.Proofs.Plan
import Conformance.Proofs.Rule.Exposure

/-! # Memory clauses

How long a value stays in memory is beyond syntax, so a clause about it is left to a check at run
time. But the question whether a name is exposed comes first: a clause that asks both, as in `key
never logged or held in memory`, gets the verdict on its exposure.

* `Rule.answer_of_no_subject`: the answer to an invariant that protects no name.
* `Rule.always_instrumented_iff`: which invariants no evidence settles.
* `Verifier.verify_memory`: the memory clauses of a unit, and the checks of its plan.
-/

namespace Conformance
open Text
set_option autoImplicit false

namespace Rule

/-- What is said of a memory clause that protects no name. -/
def memoryMessage (clause : String) : String :=
  if Clause.isExposure clause then "no sensitive identifier named, checked at runtime"
  else "memory lifetime cannot be checked syntactically"

variable {clause : String}

/-- The evidence is not looked at where no name is protected. -/
theorem answer_of_no_subject (evidence : Evidence) (h : Clause.exposureSubject? clause = none) :
    ∃ message, answer evidence (.invariants, clause) = deferred clause .invariant message ∧
      (Clause.isMemory clause = true → message = memoryMessage clause) := by
  show ∃ message, assessInvariant clause .invariant evidence = _ ∧ _
  unfold assessInvariant memoryMessage
  rw [h]
  cases Clause.isExposure clause with
  | true => exact ⟨_, rfl, fun _ => rfl⟩
  | false =>
    cases Clause.isMemory clause with
    | true => exact ⟨_, rfl, fun _ => rfl⟩
    | false => exact ⟨_, rfl, fun hmemory => by cases hmemory⟩

/-- In the empty text nothing is logged and no name occurs. -/
theorem level_exposure_of_empty_text (settings : Settings) (name : String) :
    (assessExposure clause .invariant name ⟨"", none, settings⟩).level = .proven := by
  have hlogs : Call.logsWord "" name settings.logSinks = false := by
    simp [Call.logsWord, Call.argumentLists, Call.argumentListsFrom]
  have hword : containsWord "" name = false := by simp [containsWord, hasWord]
  unfold assessExposure
  simp only [Option.filter_none, assessExposureInText, hlogs, hword]
  rfl

/-- Invariants that protect no name are left to run time whatever the evidence, and no others are. -/
theorem always_instrumented_iff (settings : Settings) (clause : String) :
    (∀ source outline, (answer ⟨source, outline, settings⟩ (.invariants, clause)).level =
      .instrumented) ↔ Clause.exposureSubject? clause = none := by
  constructor
  · intro h
    cases hsubject : Clause.exposureSubject? clause with
    | none => rfl
    | some subject =>
      have hempty := h "" none
      rw [answer_of_subject _ hsubject, level_exposure_of_empty_text] at hempty
      cases hempty
  · intro h source outline
    obtain ⟨message, hanswer, -⟩ := answer_of_no_subject ⟨source, outline, settings⟩ h
    rw [hanswer]
    rfl

end Rule

namespace Verifier

/-- **A memory clause that protects no name is left to run time.** Its assertion passes as one to be
checked, and the plan has the check. Invariants that protect a name are the only ones that some
evidence settles. -/
theorem verify_memory (settings : Settings) (u : Implementation) (outline : Option Outline) :
    (∃ r p, ({ settings : Verifier }).verify u outline = .ok r ∧ Plan.make u r = .ok p ∧
      List.Forall₂ (fun e a => e.1 = .invariants → Clause.isMemory e.2 = true →
          Clause.exposureSubject? e.2 = none →
            a.level = .instrumented ∧ a.passed = true ∧ a.message = Rule.memoryMessage e.2 ∧
              Check.ofAssertion u.id a ∈ p.checks)
        u.contract.entries r.assertions) ∧
    ∀ clause, (∀ source outline,
        (Rule.answer ⟨source, outline, settings⟩ (.invariants, clause)).level = .instrumented) ↔
      Clause.exposureSubject? clause = none := by
  refine ⟨⟨_, _, verify_standard_eq settings u outline, if_pos rfl, ?_⟩,
    Rule.always_instrumented_iff settings⟩
  rw [List.forall₂_map_right_iff, List.forall₂_same]
  rintro ⟨s, clause⟩ he rfl hmemory hsubject
  obtain ⟨message, hanswer, hmessage⟩ :=
    Rule.answer_of_no_subject ⟨u.text, outline, settings⟩ hsubject
  have hmem : Rule.deferred clause .invariant message ∈
      u.contract.entries.map (Rule.answer ⟨u.text, outline, settings⟩) :=
    hanswer ▸ List.mem_map_of_mem he
  rw [hanswer]
  exact ⟨rfl, rfl, hmessage hmemory,
    List.mem_map_of_mem (List.mem_filter.2 ⟨hmem, rfl⟩)⟩

/-- A clause that forbids to log what it speaks of without a name. -/
theorem verify_memory_without_name :
    let clause := "never logged, never held in memory"
    let u : Implementation :=
      ⟨"a.b", "", { Contract.empty with invariants := [clause] }, "log(key)", none, .rust⟩
    ∃ r p a, ({} : Verifier).verify u none = .ok r ∧ Plan.make u r = .ok p ∧ r.assertions = [a] ∧
      a.level = .instrumented ∧ a.passed = true ∧ Check.ofAssertion u.id a ∈ p.checks := by
  intro clause u
  obtain ⟨⟨r, p, hr, hp, hassertions⟩, -⟩ := verify_memory {} u none
  have hmemory : Clause.isMemory clause = true := by decide +kernel
  have hsubject : Clause.exposureSubject? clause = none := by decide +kernel
  obtain ⟨a, rest, ha, hrest, heq⟩ := List.forall₂_cons_left_iff.1 hassertions
  cases hrest
  obtain ⟨hlevel, hpassed, -, hcheck⟩ := ha rfl hmemory hsubject
  exact ⟨r, p, a, hr, hp, heq, hlevel, hpassed, hcheck⟩

/-- A memory clause that protects a name is settled: it fails if the name is logged, and passes
without a check at run time if the text does not mention the name. -/
theorem verify_memory_with_name :
    let clause := "key never logged or held in memory"
    let settings : Settings := { logSinks := ["log"] }
    let u (text : String) : Implementation :=
      ⟨"a.b", "", { Contract.empty with invariants := [clause] }, text, none, .rust⟩
    Clause.isMemory clause = true ∧
      (∃ r, ({ settings : Verifier }).verify (u "log(key)") none = .ok r ∧
        r.assertions = [⟨clause, .invariant, false, .proven, "'key' passed to a logging call"⟩]) ∧
      ∃ r p, ({ settings : Verifier }).verify (u "") none = .ok r ∧ Plan.make (u "") r = .ok p ∧
        r.assertions =
          [⟨clause, .invariant, true, .proven, "'key' not referenced in implementation"⟩] ∧
        p.checks = [] := by
  intro clause settings u
  refine ⟨by decide +kernel,
    ⟨_, verify_standard_eq settings (u "log(key)") none, by decide +kernel⟩,
    _, _, verify_standard_eq settings (u "") none, if_pos rfl, by decide +kernel, by decide +kernel⟩

end Verifier

end Conformance
