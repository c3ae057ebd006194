import Conformance.Proofs.Call.Sink
import Conformance.Proofs.Rule.Exposure

/-! # Verification under more sinks

The settings have a say in exposure clauses alone, and there only the sinks can make an assertion
fail. A sink more can turn a pass into a failure, never a failure into a pass.

* `Settings.SinksWithin`: every call of a sink under some settings is one under others.
* `Rule.failed_answer`: what fails under the first settings fails under the others.
* `Verifier.verify_under_more_sinks`: the results of a unit under two settings.
-/

namespace Conformance
open Text
set_option autoImplicit false

namespace Settings

/-- Every call of a sink under `s` is one under `t`, in outlines and in source text. -/
structure SinksWithin (s t : Settings) : Prop where
  callee : ∀ callee, Call.isSinkCallee callee s.logSinks = true →
    Call.isSinkCallee callee t.logSinks = true
  text : ∀ source name, Call.logsWord source name s.logSinks = true →
    Call.logsWord source name t.logSinks = true

variable {s t : Settings}

theorem sinksWithin_of_subset (ht : ∀ sink ∈ t.logSinks, IsDottedPath sink.toList)
    (h : s.logSinks ⊆ t.logSinks) : s.SinksWithin t where
  callee _ := Call.isSinkCallee_mono h
  text _ _ := Call.logsWord_mono ht h

theorem sinksWithin_of_eq (h : s.logSinks = t.logSinks) : s.SinksWithin t where
  callee _ hcallee := h ▸ hcallee
  text _ _ hlogs := h ▸ hlogs

end Settings

/-! ## The rules -/

namespace Rule

variable {text : String} {category : Category} {name source : String} {o : Option Outline}
variable {s t : Settings}

theorem passed_exposureInText_eq_false_iff :
    (assessExposureInText text category name s source).passed = false ↔
      Call.logsWord source name s.logSinks = true := by
  unfold assessExposureInText
  split
  · next hlogs => exact ⟨fun _ => hlogs, fun _ => rfl⟩
  · next hlogs =>
    refine ⟨fun h => ?_, fun h => absurd h hlogs⟩
    split at h
    · cases h
    · split at h <;> cases h

theorem failed_exposure (h : s.SinksWithin t)
    (hfailed : (assessExposure text category name ⟨source, o, s⟩).passed = false) :
    (assessExposure text category name ⟨source, o, t⟩).passed = false := by
  unfold assessExposure at hfailed ⊢
  dsimp only at hfailed ⊢
  cases hclean : o.filter fun o => o.clean with
  | some outline =>
    rw [hclean] at hfailed
    obtain ⟨c, hc, hname, hcallee⟩ := passed_exposureInCalls_eq_false_iff.1 hfailed
    exact passed_exposureInCalls_eq_false_iff.2 ⟨c, hc, hname, h.callee _ hcallee⟩
  | none =>
    rw [hclean] at hfailed
    have hlogs := passed_exposureInText_eq_false_iff.1 hfailed
    exact passed_exposureInText_eq_false_iff.2 (h.text _ _ hlogs)

theorem failed_invariant (h : s.SinksWithin t)
    (hfailed : (assessInvariant text category ⟨source, o, s⟩).passed = false) :
    (assessInvariant text category ⟨source, o, t⟩).passed = false := by
  unfold assessInvariant at hfailed ⊢
  split at hfailed
  · next hexposure =>
    rw [if_pos hexposure]
    split at hfailed
    · exact failed_exposure h hfailed
    · cases hfailed
  · split at hfailed <;> cases hfailed

/-- Outside of invariants the settings are not looked at. -/
theorem answer_of_ne_invariant {e : Section × String}
    (h : Clause.category e.2 e.1 ≠ .invariant) :
    answer ⟨source, o, s⟩ e = answer ⟨source, o, t⟩ e := by
  unfold answer
  cases hcategory : Clause.category e.2 e.1 with
  | invariant => exact absurd hcategory h
  | _ => rfl

theorem failed_answer {e : Section × String} (h : s.SinksWithin t)
    (hfailed : (answer ⟨source, o, s⟩ e).passed = false) :
    (answer ⟨source, o, t⟩ e).passed = false := by
  by_cases hcategory : Clause.category e.2 e.1 = .invariant
  · unfold answer at hfailed ⊢
    rw [hcategory] at hfailed ⊢
    exact failed_invariant h hfailed
  · rw [← answer_of_ne_invariant hcategory, hfailed]

theorem passed_answer_eq {e : Section × String} (h : s.SinksWithin t) (h' : t.SinksWithin s) :
    (answer ⟨source, o, s⟩ e).passed = (answer ⟨source, o, t⟩ e).passed := by
  rw [← Bool.not_inj_iff, Bool.eq_iff_iff, Bool.not_eq_true', Bool.not_eq_true']
  exact ⟨failed_answer h, failed_answer h'⟩

end Rule

/-! ## Results -/

namespace Verifier

variable {s t : Settings} {u : Implementation} {outline : Option Outline} {r r' : Result}

/-- Under settings with the same calls of sinks everything passes or fails alike. -/
theorem passed_eq_of_sinksWithin (h : s.SinksWithin t) (h' : t.SinksWithin s)
    (hr : ({ settings := s : Verifier }).verify u outline = .ok r)
    (hr' : ({ settings := t : Verifier }).verify u outline = .ok r') :
    r.assertions.map Assertion.passed = r'.assertions.map Assertion.passed ∧ r.status = r'.status := by
  rw [verify_standard_eq] at hr hr'
  cases hr
  cases hr'
  have hpassed : ∀ e, (Rule.answer ⟨u.text, outline, s⟩ e).passed =
      (Rule.answer ⟨u.text, outline, t⟩ e).passed := fun _ => Rule.passed_answer_eq h h'
  constructor
  · simp only [List.map_map, Function.comp_def, hpassed]
  · simp only [List.all_map, Function.comp_def, hpassed]

/-- **More sinks never weaken a result.** Under settings whose sinks are dotted paths and hold those
of others, whatever else they say, every assertion fails that failed under the others. Under the same
sinks, in any order and with repetitions, everything passes or fails alike; safe calls decide
nothing. -/
theorem verify_under_more_sinks (s t : Settings) (u : Implementation) (outline : Option Outline)
    (ht : ∀ sink ∈ t.logSinks, IsDottedPath sink.toList) (h : s.logSinks ⊆ t.logSinks) :
    ∃ r r', ({ settings := s : Verifier }).verify u outline = .ok r ∧
      ({ settings := t : Verifier }).verify u outline = .ok r' ∧
      List.Forall₂ (fun a b => a.passed = false → b.passed = false) r.assertions r'.assertions ∧
      (t.logSinks ⊆ s.logSinks →
        r.assertions.map Assertion.passed = r'.assertions.map Assertion.passed ∧
          r.status = r'.status) ∧
      ∀ safeCalls, ∃ r'', ({ settings := { s with safeCalls } : Verifier }).verify u outline = .ok r'' ∧
        r.assertions.map Assertion.passed = r''.assertions.map Assertion.passed ∧
          r.status = r''.status := by
  have hwithin := Settings.sinksWithin_of_subset ht h
  have hr := verify_standard_eq s u outline
  refine ⟨_, _, hr, verify_standard_eq t u outline, ?_, fun h' => ?_,
    fun safeCalls => ⟨_, verify_standard_eq { s with safeCalls } u outline, ?_⟩⟩
  · rw [List.forall₂_map_left_iff, List.forall₂_map_right_iff, List.forall₂_same]
    exact fun e _ => Rule.failed_answer hwithin
  · have hs : ∀ sink ∈ s.logSinks, IsDottedPath sink.toList := fun sink hsink => ht sink (h hsink)
    have hwithin' := Settings.sinksWithin_of_subset hs h'
    exact passed_eq_of_sinksWithin hwithin hwithin' hr (verify_standard_eq t u outline)
  · have hsafe : s.SinksWithin { s with safeCalls } := Settings.sinksWithin_of_eq rfl
    have hsafe' : Settings.SinksWithin { s with safeCalls } s := Settings.sinksWithin_of_eq rfl
    exact passed_eq_of_sinksWithin hsafe hsafe' hr (verify_standard_eq _ u outline)

/-- Longer sinks come first in the search and do not hide the shorter one: the unit fails under both
settings, also if the safe calls change. -/
theorem verify_under_longer_sinks :
    let u : Implementation := ⟨"a.b", "", { Contract.empty with invariants := ["key never logged"] },
      "log.out(key)", none, .rust⟩
    let s : Settings := { logSinks := ["log"] }
    let t : Settings := { logSinks := ["log.out.raw", "log", "log.out", "log"], safeCalls := ["out"] }
    (∀ sink ∈ t.logSinks, IsDottedPath sink.toList) ∧ s.logSinks ⊆ t.logSinks ∧
      ∃ r r', ({ settings := s : Verifier }).verify u none = .ok r ∧
        ({ settings := t : Verifier }).verify u none = .ok r' ∧
        r.assertions.map Assertion.passed = [false] ∧
        r'.assertions.map Assertion.passed = [false] := by
  intro u s t
  have ht : ∀ sink ∈ t.logSinks, IsDottedPath sink.toList := by decide
  have h : s.logSinks ⊆ t.logSinks := by decide
  obtain ⟨r, r', hr, hr', hfailed, -⟩ := verify_under_more_sinks s t u none ht h
  have hfirst : r.assertions.map Assertion.passed = [false] := by
    rw [verify_standard_eq] at hr
    cases hr
    decide +kernel
  obtain ⟨a, ha, hone⟩ := List.map_eq_singleton_iff.1 hfirst
  rw [ha] at hfailed
  obtain ⟨b, rest, hb, hrest, hone'⟩ := List.forall₂_cons_left_iff.1 hfailed
  cases hrest
  refine ⟨ht, h, r, r', hr, hr', hfirst, ?_⟩
  rw [hone', List.map_singleton, hb hone]

end Verifier

end Conformance
