import Conformance.Proofs.Clause.Exposure
import Conformance.Proofs.Text.Segment
import Conformance.Proofs.Verification

/-! # Exposure clauses and the calls of an outline

Against a cleanly read module an exposure clause is always settled. It fails exactly if a call of a
sink mentions the protected name.

* `CallSite.Exposes`: the call hands a name to a sink.
* `Rule.passed_exposureInCalls_eq_false_iff`, `Rule.exposureInCalls_of_failed`: when the clause
  fails, and which call it then names.
* `Rule.answer_exposure`: the answer to an exposure clause is this verdict.
-/

namespace Conformance
open Text
set_option autoImplicit false

theorem Names.contains_eq_true_iff {s : Names} {name : String} :
    s.contains name = true ↔ name ∈ s := by
  rw [Names.contains, List.contains_iff_mem, Names.mem_def]

namespace Outline.CallSite

/-- The call is one of a sink and mentions the name in its arguments. -/
def Exposes (sinks : List String) (name : String) (c : CallSite) : Prop :=
  name ∈ c.arguments ∧ Call.isSinkCallee c.callee sinks = true

instance (sinks : List String) (name : String) (c : CallSite) : Decidable (c.Exposes sinks name) :=
  inferInstanceAs (Decidable (_ ∧ _))

end Outline.CallSite

namespace Rule

/-- What a failed exposure clause says of a call. -/
def exposureMessage (name callee : String) (line : Nat) : String :=
  "'" ++ name ++ "' passed to " ++ callee ++ "() on line " ++ toString line

section
variable {text : String} {category : Category} {name : String} {settings : Settings}
variable {calls : List Outline.CallSite}

theorem level_exposureInCalls :
    (assessExposureInCalls text category name settings calls).level = .proven := by
  unfold assessExposureInCalls
  dsimp only
  split
  · rfl
  · split <;> rfl

/-- The search for a sink among the calls that mention the name is one search. -/
theorem find?_uses :
    ((calls.filter fun c => c.arguments.contains name).find? fun c =>
        Call.isSinkCallee c.callee settings.logSinks) =
      calls.find? fun c => decide (c.Exposes settings.logSinks name) := by
  rw [List.find?_filter]
  refine congrArg (fun p => calls.find? p) (funext fun c => decide_eq_decide.2 ?_)
  rw [Names.contains_eq_true_iff, Outline.CallSite.Exposes]

theorem passed_exposureInCalls_eq_false_iff :
    (assessExposureInCalls text category name settings calls).passed = false ↔
      ∃ c ∈ calls, c.Exposes settings.logSinks name := by
  unfold assessExposureInCalls
  dsimp only
  rw [find?_uses]
  split
  · next c hc =>
    have hexposes := List.find?_some hc
    rw [decide_eq_true_eq] at hexposes
    exact ⟨fun _ => ⟨c, List.mem_of_find?_eq_some hc, hexposes⟩, fun _ => rfl⟩
  · next hnone =>
    have hnone : ¬ ∃ c ∈ calls, c.Exposes settings.logSinks name := by
      rintro ⟨c, hc, hexposes⟩
      exact List.find?_eq_none.1 hnone c hc (decide_eq_true hexposes)
    refine ⟨fun h => ?_, fun h => absurd h hnone⟩
    split at h <;> cases h

/-- A failed clause names the first call that exposes the name. -/
theorem exposureInCalls_of_failed
    (h : (assessExposureInCalls text category name settings calls).passed = false) :
    ∃ before c after, calls = before ++ c :: after ∧ c.Exposes settings.logSinks name ∧
      (∀ d ∈ before, ¬ d.Exposes settings.logSinks name) ∧
      (assessExposureInCalls text category name settings calls).message =
        exposureMessage name c.callee c.line := by
  unfold assessExposureInCalls at h ⊢
  dsimp only at h ⊢
  rw [find?_uses] at h ⊢
  split at h
  · next c hc =>
    obtain ⟨hexposes, before, after, hcalls, hbefore⟩ := List.find?_eq_some_iff_append.1 hc
    refine ⟨before, c, after, hcalls, of_decide_eq_true hexposes, fun d hd hd' => ?_, rfl⟩
    have hnot := hbefore d hd
    rw [decide_eq_true hd'] at hnot
    cases hnot
  · split at h <;> cases h

/-- Among calls in the order of their lines the first one has the smallest line. -/
theorem exposureInCalls_of_failed_of_sorted
    (hsorted : calls.Pairwise fun c d => c.line ≤ d.line)
    (h : (assessExposureInCalls text category name settings calls).passed = false) :
    ∃ c ∈ calls, c.Exposes settings.logSinks name ∧
      (∀ d ∈ calls, d.Exposes settings.logSinks name → c.line ≤ d.line) ∧
      (assessExposureInCalls text category name settings calls).message =
        exposureMessage name c.callee c.line := by
  obtain ⟨before, c, after, hcalls, hexposes, hbefore, hmessage⟩ := exposureInCalls_of_failed h
  refine ⟨c, by simp [hcalls], hexposes, fun d hd hd' => ?_, hmessage⟩
  rw [hcalls] at hd hsorted
  rcases List.mem_append.1 hd with hd | hd
  · exact absurd hd' (hbefore d hd)
  · rcases List.mem_cons.1 hd with rfl | hd
    · exact Nat.le_refl _
    · exact List.rel_of_pairwise_cons (List.pairwise_append.1 hsorted).2.1 hd

end

/-- A protected name is asked for first, whatever else the clause speaks of. -/
theorem answer_of_subject {clause subject : String} (evidence : Evidence)
    (h : Clause.exposureSubject? clause = some subject) :
    answer evidence (.invariants, clause) =
      assessExposure clause .invariant (lastSegment subject) evidence := by
  show assessInvariant clause .invariant evidence = _
  simp only [assessInvariant, Clause.isExposure_of_subject h, h, ↓reduceIte]

/-- A cleanly read module answers its exposure clauses by its calls. -/
theorem answer_exposure {clause subject source : String} {settings : Settings} {o : Outline}
    (hsubject : Clause.exposureSubject? clause = some subject) (hclean : o.clean = true) :
    answer ⟨source, some o, settings⟩ (.invariants, clause) =
      assessExposureInCalls clause .invariant (lastSegment subject) settings o.calls := by
  have hoption : (some o).filter (fun o => o.clean) = some o := by simp [Option.filter_some, hclean]
  rw [answer_of_subject _ hsubject, assessExposure]
  simp only [hoption]

end Rule

end Conformance
