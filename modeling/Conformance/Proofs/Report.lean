import Mathlib.Algebra.Ring.Nat
import Conformance.Proofs.Text.Parts
import Conformance.Proofs.Workspace.Batch

/-! # Reports tell of one verdict

The gate and the summary read the status of a result, the text for a terminal reads its assertions.
On the results of a verifier these agree, and the counts over a batch are sums over its results.

* `Batch.Coherent`: results under their units' ids, each proven just if its assertions passed.
  `Project.coherent_of_verifyAll`: an answered batch is such a batch.
* `Result.isFailedText_line_iff`: which results are shown as failed.
* `Summary.Counts`: what the counts over some results are; `Summary.Counts.addResult` for one result
  more, `Batch.counts_summary` for a whole batch.
* `Batch.blocking_and_summary`: the gate, the summary and the text on one batch.
-/

namespace Conformance
set_option autoImplicit false

/-! ## The text of a result -/

namespace Result

/-- The text is that of a failed unit with this id. -/
def IsFailedText (id text : String) : Prop :=
  ∃ rest, text = "x " ++ id ++ ": FAILED (" ++ rest

theorem IsFailedText.head?_eq {id text : String} (h : IsFailedText id text) :
    text.toList.head? = some 'x' := by
  obtain ⟨rest, rfl⟩ := h
  simp

variable {r : Result}

/-- The verbose text differs below its first line alone. -/
theorem isFailedText_line_iff (verbose : Bool) :
    IsFailedText r.unitId (r.line verbose) ↔ r.failedAssertions ≠ [] := by
  unfold line
  dsimp only
  split
  · next hfailed =>
    refine iff_of_true ?_ (by simpa using hfailed)
    obtain ⟨rest, hrest⟩ := Text.exists_intercalate_cons "\n"
      ("x " ++ r.unitId ++ ": FAILED (" ++ toString r.failedAssertions.length ++ "/" ++
        toString r.assertions.length ++ " assertions failed)")
      (if verbose then r.failedAssertions.map fun a => "    - " ++ a.text ++ ": " ++ a.message else [])
    rw [hrest]
    exact ⟨toString r.failedAssertions.length ++ "/" ++ toString r.assertions.length ++
      " assertions failed)" ++ rest, by simp only [String.append_assoc]⟩
  · next hfailed =>
    have hnone : ¬ r.failedAssertions ≠ [] := by simpa using hfailed
    refine iff_of_false (fun htext => ?_) hnone
    have hhead := htext.head?_eq
    split at hhead
    · simp at hhead
    · simp at hhead

end Result

/-! ## The counts of a batch -/

namespace Summary

/-- What is left of a list of assertions when they are counted level by level. -/
theorem sum_count_level (levels : List Level) :
    (Level.all.map fun level => levels.count level).sum = levels.length := by
  induction levels with
  | nil => rfl
  | cons level rest ih =>
    simp only [Level.all, List.map_cons, List.map_nil, List.sum_cons, List.sum_nil,
      List.length_cons] at ih ⊢
    cases level <;> simp <;> omega

/-- The loop over the assertions of one result. -/
theorem foldl_addAssertion (s : Summary) (assertions : List Assertion) :
    assertions.foldl addAssertion s =
      { s with
        totalAssertions := s.totalAssertions + assertions.length
        byLevel := fun level => s.byLevel level + (assertions.map Assertion.level).count level
        failedAssertions := s.failedAssertions + (assertions.filter fun a => !a.passed).length } := by
  induction assertions generalizing s with
  | nil => rfl
  | cons a rest ih =>
    rw [List.foldl_cons, ih]
    have hlevel (level : Level) :
        (if level = a.level then s.byLevel level + 1 else s.byLevel level) +
            (rest.map Assertion.level).count level =
          s.byLevel level + ((a :: rest).map Assertion.level).count level := by
      rw [List.map_cons, List.count_cons]
      by_cases h : level = a.level
      · simp [h]; omega
      · simp [h, Ne.symm h]
    have hfailed :
        (if a.passed then s.failedAssertions else s.failedAssertions + 1) +
            (rest.filter fun b => !b.passed).length =
          s.failedAssertions + ((a :: rest).filter fun b => !b.passed).length := by
      cases h : a.passed
      · simp [h]; omega
      · simp [h]
    simp only [addAssertion, hlevel, hfailed, List.length_cons, Nat.add_assoc, Nat.add_comm 1]

/-- The counts are those over the results. -/
structure Counts (s : Summary) (results : List Result) : Prop where
  totalUnits_eq : s.totalUnits = results.length
  provenUnits_add_failedUnits : s.provenUnits + s.failedUnits = s.totalUnits
  failedUnits_eq : s.failedUnits = results.countP fun r => !r.passed
  totalAssertions_eq : s.totalAssertions = (results.map fun r => r.assertions.length).sum
  byLevel_sum_eq : (Level.all.map s.byLevel).sum = s.totalAssertions
  failedAssertions_eq : s.failedAssertions = (results.map fun r => r.failedAssertions.length).sum
  advisories_eq : s.advisories = (results.map fun r => r.advisories.length).sum

theorem counts_zero : zero.Counts [] := ⟨rfl, rfl, rfl, rfl, rfl, rfl, rfl⟩

/-- One result more. -/
theorem Counts.addResult {s : Summary} {results : List Result} (h : s.Counts results) (r : Result) :
    (s.addResult r).Counts (results ++ [r]) := by
  have hlevels := sum_count_level (r.assertions.map Assertion.level)
  have hsum := h.byLevel_sum_eq
  have hunits := h.provenUnits_add_failedUnits
  rw [Summary.addResult, foldl_addAssertion]
  refine ⟨?_, ?_, ?_, ?_, ?_, ?_, ?_⟩
  · simp [h.totalUnits_eq]
  · dsimp only
    cases r.passed <;> simp <;> omega
  · cases hr : r.passed <;> simp [h.failedUnits_eq, hr]
  · simp [h.totalAssertions_eq]
  · simp only [Level.all, List.map_cons, List.map_nil, List.sum_cons, List.sum_nil,
      List.length_map] at hlevels hsum ⊢
    omega
  · simp [h.failedAssertions_eq, Result.failedAssertions]
  · simp [h.advisories_eq]

/-- The loop over results, which goes on from results that are counted already. -/
theorem Counts.foldl {s : Summary} {counted : List Result} (h : s.Counts counted)
    (results : List Result) : (results.foldl Summary.addResult s).Counts (counted ++ results) := by
  induction results generalizing s counted with
  | nil => rwa [List.append_nil]
  | cons r rest ih =>
    have hrest := ih (h.addResult r)
    rwa [List.append_assoc, List.singleton_append] at hrest

end Summary

namespace Batch

theorem counts_summary (b : Batch) : b.summary.Counts b.results := Summary.counts_zero.foldl b.results

/-! ## The gate -/

theorem mem_blocking_iff {b : Batch} {id : String} :
    id ∈ b.blocking ↔ ∃ r, (id, r) ∈ b.entries ∧ r.passed = false := by
  unfold blocking
  rw [(List.mergeSort_perm _ _).mem_iff]
  simp

theorem length_blocking (b : Batch) : b.blocking.length = b.summary.failedUnits := by
  rw [b.counts_summary.failedUnits_eq, blocking, List.length_mergeSort, List.length_map, results,
    List.countP_map, ← List.countP_eq_length_filter]
  rfl

/-- Sorted ids ascend strictly where no id stands twice. -/
theorem pairwise_blocking {b : Batch} (h : (b.entries.map Prod.fst).Nodup) :
    b.blocking.Pairwise (· < ·) := by
  have hsorted : b.blocking.Pairwise fun id id' => decide (id ≤ id') = true := by
    refine List.pairwise_mergeSort (fun x y z hxy hyz => ?_) (fun x y => ?_) _
    · rw [decide_eq_true_eq] at hxy hyz ⊢
      exact String.le_trans hxy hyz
    · rw [Bool.or_eq_true, decide_eq_true_eq, decide_eq_true_eq]
      exact String.le_total x y
  have hnodup : b.blocking.Nodup :=
    (List.mergeSort_perm _ _).nodup_iff.2 (h.sublist (List.filter_sublist.map _))
  refine hsorted.imp₂ (fun x y hle hne => ?_) hnodup
  exact Std.lt_of_le_of_ne (of_decide_eq_true hle) hne

/-! ## Coherent batches -/

/-- Each result stands under its unit's id, no id stands twice, and a result is proven just if all
its assertions passed. -/
structure Coherent (b : Batch) : Prop where
  nodup_keys : (b.entries.map Prod.fst).Nodup
  key_eq : ∀ e ∈ b.entries, e.1 = e.2.unitId
  proven_iff : ∀ e ∈ b.entries, (e.2.status = .proven ↔ ∀ a ∈ e.2.assertions, a.passed = true)

end Batch

/-- What a verifier makes of units is coherent, whichever units share an id. -/
theorem Project.coherent_of_verifyAll {p : Project} {units : List Implementation} {batch : Batch}
    (h : p.verifyAll units = .ok batch) : batch.Coherent := by
  obtain ⟨settings, outlines, results, -, -, hresults, rfl⟩ := verifyAll_ok_inv h
  have hlists := lists_of_each hresults
  have hverdict : ∀ e ∈ Keyed.ofList results, ∃ u, e.1 = u.id ∧ Verifier.Verdict u e.2 := by
    intro e he
    obtain ⟨u, -, hkey, hr⟩ := hlists.exists_unit_of_mem (Keyed.mem_of_mem_ofList he)
    obtain ⟨r, hstandard, hverdict⟩ := Verifier.verify_standard settings u
      ((Keyed.get? (Keyed.ofList outlines) u.id).getD none)
    have hsame : e.2 = r := Except.ok.inj ((verify_eq_ok_iff.1 hr).symm.trans hstandard)
    exact ⟨u, hkey, hsame ▸ hverdict⟩
  refine ⟨Keyed.nodup_keys_ofList results, ?_, ?_⟩
  · intro e he
    obtain ⟨u, hkey, hu⟩ := hverdict e he
    rw [hkey, hu.unitId_eq]
  · intro e he
    obtain ⟨u, -, hu⟩ := hverdict e he
    exact hu.status_proven_iff

namespace Batch

variable {b : Batch}

/-- In a coherent batch the status and the assertions of a result tell the same. -/
theorem Coherent.passed_eq_false_iff (h : b.Coherent) {e : String × Result} (he : e ∈ b.entries) :
    e.2.passed = false ↔ e.2.failedAssertions ≠ [] := by
  have hpassed : e.2.passed = true ↔ e.2.failedAssertions = [] := by
    rw [Result.passed, beq_iff_eq, h.proven_iff e he, Result.failedAssertions,
      List.filter_eq_nil_iff]
    simp
  rw [← Bool.not_eq_true, hpassed]

/-- **The gate, the summary and the text agree.** In a batch of verified units the gate lists, in
strictly ascending order, just the ids of the units that are shown as failed, with details or without.
There are as many as the summary counts failed, and none if it says that all are proven. All counts
are sums over the results. -/
theorem blocking_and_summary (h : b.Coherent) :
    b.blocking.Pairwise (· < ·) ∧
    (∀ id verbose, id ∈ b.blocking ↔
      ∃ r, (id, r) ∈ b.entries ∧ Result.IsFailedText id (r.line verbose)) ∧
    b.blocking.length = b.summary.failedUnits ∧
    (b.summary.allProven = true ↔ b.blocking = []) ∧
    b.summary.provenUnits + b.summary.failedUnits = b.summary.totalUnits ∧
    b.summary.totalUnits = b.entries.length ∧
    (Level.all.map b.summary.byLevel).sum = b.summary.totalAssertions ∧
    b.summary.totalAssertions = (b.entries.map fun e => e.2.assertions.length).sum ∧
    b.summary.failedAssertions = (b.entries.map fun e => e.2.failedAssertions.length).sum ∧
    b.summary.advisories = (b.entries.map fun e => e.2.advisories.length).sum := by
  have hcounts := b.counts_summary
  have htotal := hcounts.totalUnits_eq
  have hassertions := hcounts.totalAssertions_eq
  have hfailed := hcounts.failedAssertions_eq
  have hadvisories := hcounts.advisories_eq
  rw [results, List.length_map] at htotal
  rw [results, List.map_map] at hassertions hfailed hadvisories
  refine ⟨pairwise_blocking h.nodup_keys, ?_, length_blocking b, ?_,
    hcounts.provenUnits_add_failedUnits, htotal, hcounts.byLevel_sum_eq, hassertions, hfailed,
    hadvisories⟩
  · intro id verbose
    rw [mem_blocking_iff]
    refine exists_congr fun r => and_congr_right fun hr => ?_
    have hkey : id = r.unitId := h.key_eq _ hr
    rw [hkey, Result.isFailedText_line_iff]
    exact h.passed_eq_false_iff hr
  · rw [Summary.allProven, beq_iff_eq, ← length_blocking, List.length_eq_zero_iff]

/-- Two units fail, in the reverse order of their ids, and one passes with an advisory. -/
theorem blocking_and_summary_of_three :
    let missing : Assertion := ⟨"Lost", .failureMode, false, .proven, "not found in implementation"⟩
    let deferred : Assertion := ⟨"result is fresh", .successGuarantee, true, .instrumented, ""⟩
    let b : Batch := ⟨[("b.z", ⟨"b.z", .failed, [deferred, missing], []⟩),
      ("a.y", ⟨"a.y", .proven, [deferred], [⟨"fail-open policy", false⟩]⟩),
      ("b.a", ⟨"b.a", .failed, [missing, missing], []⟩)]⟩
    b.Coherent ∧ b.blocking.Pairwise (· < ·) ∧ b.blocking.length = 2 ∧
      (∀ id, id ∈ b.blocking ↔ ∃ r, (id, r) ∈ b.entries ∧ Result.IsFailedText id (r.line true)) ∧
      b.summary.provenUnits + b.summary.failedUnits = 3 ∧
      (Level.all.map b.summary.byLevel).sum = 5 ∧ b.summary.failedAssertions = 3 ∧
      b.summary.advisories = 1 := by
  intro missing deferred b
  have hcoherent : b.Coherent := by
    refine ⟨by decide, by decide, ?_⟩
    simp [b, missing, deferred]
  obtain ⟨hsorted, hmem, hlength, -, hunits, htotal, hlevels, hassertions, hfailed, hadvisories⟩ :=
    blocking_and_summary hcoherent
  exact ⟨hcoherent, hsorted, hlength, fun id => hmem id true, hunits.trans htotal,
    hlevels.trans hassertions, hfailed, hadvisories⟩

end Batch

end Conformance
