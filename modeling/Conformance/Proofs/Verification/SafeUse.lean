import Conformance.Proofs.Offside.Exposure
import Conformance.Proofs.Verification.Sinks

/-! # Names in safe calls

A clause may pass on the ground that its name is only used in comparison or hashing calls. From the
text alone this ground is given only if all occurrences of the name lie in safe calls. From an outline
it is given if one call of a safe name uses the name and no call of a sink does.

* `Assertion.ClaimsSafeUse`: an assertion passes on this ground.
* `Rule.claimsSafeUse_exposureInCalls_iff`, `Rule.claimsSafeUse_exposureInText_iff`: when it does.
* `Verifier.verify_safe_use`: what the ground says of the calls of an outline, and of a text.
* `Verifier.verify_safe_use_beside_other`: a use in a safe call covers one in another call.
-/

namespace Conformance
open Text
set_option autoImplicit false

namespace Outline.CallSite

/-- The call is one of a safe name and mentions the name in its arguments. -/
def UsesSafely (safeCalls : List String) (name : String) (c : CallSite) : Prop :=
  name ∈ c.arguments ∧ Call.isSafeCallee c.callee safeCalls = true

end Outline.CallSite

namespace Rule

def safeUseMessage (name : String) : String :=
  "'" ++ name ++ "' only used in comparison or hashing calls"

/-- Two remarks on one name differ if they say different things of it. -/
theorem remark_ne {s t : String} (name : String) (h : s ≠ t) :
    "'" ++ name ++ s ≠ "'" ++ name ++ t := by
  intro hsame
  exact h ((String.append_right_inj ("'" ++ name)).1 hsame)

end Rule

def Assertion.ClaimsSafeUse (a : Assertion) (name : String) : Prop :=
  a.passed = true ∧ a.message = Rule.safeUseMessage name

namespace Rule

variable {text : String} {category : Category} {name source : String} {settings : Settings}
variable {calls : List Outline.CallSite}

theorem any_uses_eq_true_iff :
    ((calls.filter fun c => c.arguments.contains name).any fun c =>
        Call.isSafeCallee c.callee settings.safeCalls) = true ↔
      ∃ c ∈ calls, c.UsesSafely settings.safeCalls name := by
  simp only [List.any_eq_true, List.mem_filter, Names.contains_eq_true_iff, and_assoc,
    Outline.CallSite.UsesSafely]

theorem claimsSafeUse_exposureInCalls_iff :
    (assessExposureInCalls text category name settings calls).ClaimsSafeUse name ↔
      (∀ c ∈ calls, ¬ c.Exposes settings.logSinks name) ∧
        ∃ c ∈ calls, c.UsesSafely settings.safeCalls name := by
  have hpassed : (assessExposureInCalls text category name settings calls).passed = true ↔
      ∀ c ∈ calls, ¬ c.Exposes settings.logSinks name := by
    rw [← Bool.not_eq_false, passed_exposureInCalls_eq_false_iff]
    simp only [not_exists, not_and]
  unfold Assertion.ClaimsSafeUse
  rw [hpassed]
  refine and_congr_right fun hnone => ?_
  have hfind : (calls.filter fun c => c.arguments.contains name).find?
      (fun c => Call.isSinkCallee c.callee settings.logSinks) = none := by
    rw [find?_uses, List.find?_eq_none]
    exact fun c hc => by simpa using hnone c hc
  unfold assessExposureInCalls
  simp only [hfind]
  split
  · next hsafe => exact ⟨fun _ => any_uses_eq_true_iff.1 hsafe, fun _ => rfl⟩
  · next hsafe =>
    refine ⟨fun h => ?_, fun h => absurd (any_uses_eq_true_iff.2 h) hsafe⟩
    exact absurd h (remark_ne name (by decide))

theorem claimsSafeUse_exposureInText_iff :
    (assessExposureInText text category name settings source).ClaimsSafeUse name ↔
      Call.logsWord source name settings.logSinks = false ∧ containsWord source name = true ∧
        Call.onlyInSafeCalls source name settings.safeCalls = true := by
  have hpassed : (assessExposureInText text category name settings source).passed = true ↔
      Call.logsWord source name settings.logSinks = false := by
    rw [← Bool.not_eq_false, passed_exposureInText_eq_false_iff, Bool.not_eq_true]
  unfold Assertion.ClaimsSafeUse
  rw [hpassed]
  refine and_congr_right fun hlogs => ?_
  unfold assessExposureInText
  rw [hlogs, if_neg Bool.false_ne_true]
  cases containsWord source name with
  | false =>
    refine ⟨fun h => absurd h (remark_ne name (by decide)), fun h => ?_⟩
    cases h.1
  | true =>
    cases Call.onlyInSafeCalls source name settings.safeCalls with
    | false =>
      refine ⟨fun h => absurd h (remark_ne name (by decide)), fun h => ?_⟩
      cases h.2
    | true => exact ⟨fun _ => ⟨rfl, rfl⟩, fun _ => rfl⟩

/-- Without a cleanly read module the text answers an exposure clause. -/
theorem answer_exposure_of_text {clause subject : String} {outline : Option Outline}
    (hsubject : Clause.exposureSubject? clause = some subject)
    (hclean : ∀ o, outline = some o → o.clean = false) :
    answer ⟨source, outline, settings⟩ (.invariants, clause) =
      assessExposureInText clause .invariant (lastSegment subject) settings source := by
  have hoption : outline.filter (fun o => o.clean) = none := by
    rw [Option.filter_eq_none_iff]
    intro o ho
    rw [hclean o ho]
    exact Bool.false_ne_true
  rw [answer_of_subject _ hsubject, assessExposure]
  simp only [hoption]

end Rule

namespace Verifier

/-- **What the safe-use ground says.** Against a cleanly read module a clause passes on this ground
exactly if no call of a sink has the name among its arguments and some call of a safe name has. Then
all calls that have it are safe exactly if each of them is safe or one of a sink. Without such a module
the clause passes on it only if all occurrences of the name lie in safe calls of the text. -/
theorem verify_safe_use (settings : Settings) (u : Implementation) (outline : Option Outline) :
    ∃ r, ({ settings : Verifier }).verify u outline = .ok r ∧
      List.Forall₂ (fun e a => ∀ subject name, e.1 = .invariants →
          Clause.exposureSubject? e.2 = some subject → lastSegment subject = name →
          (∀ o, outline = some o → o.clean = true →
            (a.ClaimsSafeUse name ↔ (∀ c ∈ o.calls, ¬ c.Exposes settings.logSinks name) ∧
              ∃ c ∈ o.calls, c.UsesSafely settings.safeCalls name) ∧
            (a.ClaimsSafeUse name →
              ((∀ c ∈ o.calls, name ∈ c.arguments → c.UsesSafely settings.safeCalls name) ↔
                ∀ c ∈ o.calls, name ∈ c.arguments →
                  c.Exposes settings.logSinks name ∨ c.UsesSafely settings.safeCalls name))) ∧
          ((∀ o, outline = some o → o.clean = false) → a.ClaimsSafeUse name →
            Call.onlyInSafeCalls u.text name settings.safeCalls = true))
        u.contract.entries r.assertions := by
  refine exists_verify_of_answers ?_
  rintro ⟨s, clause⟩ subject name rfl hsubject rfl
  refine ⟨?_, fun hclean hclaims => ?_⟩
  · rintro o rfl hclean
    rw [Rule.answer_exposure hsubject hclean]
    refine ⟨Rule.claimsSafeUse_exposureInCalls_iff, fun hclaims => ?_⟩
    obtain ⟨hnone, -⟩ := Rule.claimsSafeUse_exposureInCalls_iff.1 hclaims
    constructor
    · exact fun hsafe c hc hname => .inr (hsafe c hc hname)
    · intro heither c hc hname
      exact (heither c hc hname).resolve_left (hnone c hc)
  · rw [Rule.answer_exposure_of_text hsubject hclean] at hclaims
    exact (Rule.claimsSafeUse_exposureInText_iff.1 hclaims).2.2

/-- The name goes to `verify` and to `send`, which is no safe call. The text alone would not pass the
clause on this ground. -/
theorem verify_safe_use_beside_other :
    let pass (line : Nat) (callee : String) : Offside.Node :=
      .call line (.name callee) [.name "secret"] []
    let o := Offside.outline ⟨[pass 1 "verify", pass 2 "send"]⟩
    let u : Implementation :=
      ⟨"a.b", "", { Contract.empty with invariants := ["secret never logged"] },
        "verify(secret)\nsend(secret)", none, .python⟩
    o.clean = true ∧ Clause.exposureSubject? "secret never logged" = some "secret" ∧
      ({ settings := {} : Verifier }).verify u (some o) =
        .ok ⟨"a.b", .proven, [⟨"secret never logged", .invariant, true, .proven,
          "'secret' only used in comparison or hashing calls"⟩], []⟩ ∧
      (∃ c ∈ o.calls, "secret" ∈ c.arguments ∧
        Call.isSafeCallee c.callee ({} : Settings).safeCalls = false) ∧
      Call.onlyInSafeCalls u.text "secret" ({} : Settings).safeCalls = false := by
  intro pass o u
  let m : Offside.Module := ⟨[pass 1 "verify", pass 2 "send"]⟩
  have hclean : o.clean = true := rfl
  have hsubject : Clause.exposureSubject? "secret never logged" = some "secret" := by decide
  have hcalls : o.calls = m.nodes.filterMap Offside.callSite? :=
    Offside.calls_eq_of_sorted (by decide +kernel)
  have hentries : u.contract.entries = [(.invariants, "secret never logged")] := rfl
  have hother : (o.calls.any fun c => c.arguments.contains "secret" &&
      !Call.isSafeCallee c.callee ({} : Settings).safeCalls) = true := by
    rw [hcalls]
    decide +kernel
  obtain ⟨c, hc, hother⟩ := List.any_eq_true.1 hother
  rw [Bool.and_eq_true, Names.contains_eq_true_iff, Bool.not_eq_true'] at hother
  have hsorted : Call.longestFirst ({} : Settings).safeCalls =
      ["timingSafeEqual", "compare_digest", "compareSync", "hashSync", "compare", "checkpw", "hashpw",
        "verify", "sha256", "digest", "hash"].map String.toList := by
    simp [Call.longestFirst, List.mergeSort]
  refine ⟨hclean, hsubject, ?_, ⟨c, hc, hother⟩, ?_⟩
  · rw [verify_standard_eq, hentries, List.map_singleton, Rule.answer_exposure hsubject hclean, hcalls,
      Except.ok.injEq]
    decide +kernel
  · unfold Call.onlyInSafeCalls
    rw [hsorted]
    decide +kernel

end Verifier

end Conformance
