import Conformance.Plan
import Conformance.Proofs.Verification

/-! # What a plan covers

Verification and planning together leave no clause open: what is not failed and not proven has a
check at run time.

* `Coverage`: an entry of a contract with its assertion and the check that covers it.
* `Coverage.Settled`: the check fits the assertion, and the entry is in one class of three.
* `Plan.make_settles_every_entry`: a unit's result and its plan are columns of one table of settled
  rows; checks before the run come first.
-/

namespace Conformance
set_option autoImplicit false

/-! ## Checks of assertions -/

theorem Assertion.Answers.needsCheck_iff {text : String} {category : Category} {a : Assertion}
    (h : a.Answers text category) : a.needsCheck = true ↔ a.level = .instrumented := by
  unfold Assertion.needsCheck
  rw [Bool.and_eq_true, beq_iff_eq]
  refine ⟨And.left, fun hl => ⟨hl, ?_⟩⟩
  cases hp : a.passed with
  | true => rfl
  | false =>
    have hproven := h.proven_of_failed hp
    rw [hl] at hproven
    cases hproven

/-- Conditions on the way in are those of the `requires` section. -/
theorem Clause.isPrecondition_category_iff (clause : String) (s : Section) :
    (Clause.category clause s).isPrecondition = true ↔ s = .requires := by
  cases s with
  | requires =>
    simp only [Clause.category]
    split
    · simp [Category.isPrecondition]
    · split <;> simp [Category.isPrecondition]
  | onSuccess | onFailure | invariants | fails => simp [Clause.category, Category.isPrecondition]

theorem Check.insertionPoint_eq_pre_iff (unitId : String) (a : Assertion) :
    (Check.ofAssertion unitId a).insertionPoint = .pre ↔ a.category.isPrecondition = true := by
  unfold Check.ofAssertion
  cases a.category.isPrecondition <;> simp

/-! ## The coverage of an entry -/

/-- An entry of a contract, the assertion that answers it, and the check that covers it. -/
structure Coverage where
  entry : Section × String
  assertion : Assertion
  check : Option Check

/-- What can become of an entry. -/
inductive Standing where
  | failed | proven | checked

namespace Coverage

/-- The entry is in the class; the status is that of the whole result. -/
def Stands (status : Status) (row : Coverage) : Standing → Prop
  | .failed => row.assertion.passed = false ∧ status = .failed ∧ row.check = none
  | .proven => row.assertion.passed = true ∧ row.assertion.level = .proven ∧ row.check = none
  | .checked =>
    row.assertion.passed = true ∧ row.assertion.level = .instrumented ∧ row.check ≠ none

/-- The assertion answers the entry, the check is there just if it is called for and fits both, and
the entry is in one class. -/
structure Settled (status : Status) (row : Coverage) : Prop where
  answers : row.assertion.Answers row.entry.2 (Clause.category row.entry.2 row.entry.1)
  check_iff : row.check ≠ none ↔ row.assertion.level = .instrumented
  check_eq : ∀ c, row.check = some c → c.text = row.assertion.text ∧
    c.category = row.assertion.category ∧ c.level = row.assertion.level
  pre_iff : ∀ c, row.check = some c → (c.insertionPoint = .pre ↔ row.entry.1 = .requires)
  not_failureMode : ∀ c, row.check = some c → c.category ≠ .failureMode
  standing : ∃! s, row.Stands status s

/-- What standard rules and planning make of an entry. -/
def ofEntry (unitId : String) (evidence : Evidence) (e : Section × String) : Coverage :=
  let a := Rule.answer evidence e
  ⟨e, a, if a.needsCheck then some (Check.ofAssertion unitId a) else none⟩

variable {unitId : String} {evidence : Evidence} {e : Section × String} {status : Status} {c : Check}

theorem ofEntry_check_ne_none_iff :
    (ofEntry unitId evidence e).check ≠ none ↔
      (ofEntry unitId evidence e).assertion.level = .instrumented := by
  have h := (Rule.answers_answer evidence e).needsCheck_iff
  simp only [ofEntry]
  rw [← h]
  cases (Rule.answer evidence e).needsCheck <;> simp

theorem ofEntry_check_eq_some (h : (ofEntry unitId evidence e).check = some c) :
    c = Check.ofAssertion unitId (Rule.answer evidence e) := by
  simp only [ofEntry] at h
  split at h
  · exact (Option.some.inj h).symm
  · cases h

theorem category_of_check (h : (ofEntry unitId evidence e).check = some c) :
    c.category = Clause.category e.2 e.1 := by
  rw [ofEntry_check_eq_some h]
  exact (Rule.answers_answer evidence e).category_eq

theorem insertionPoint_of_check (h : (ofEntry unitId evidence e).check = some c) :
    c.insertionPoint = .pre ↔ e.1 = .requires := by
  rw [ofEntry_check_eq_some h, Check.insertionPoint_eq_pre_iff,
    (Rule.answers_answer evidence e).category_eq, Clause.isPrecondition_category_iff]

/-- Declared failures are always settled by syntax. -/
theorem category_of_check_ne (h : (ofEntry unitId evidence e).check = some c) :
    c.category ≠ .failureMode := by
  intro hc
  have hcategory : Clause.category e.2 e.1 = .failureMode := by rw [← hc, category_of_check h]
  have hlevel : (Rule.answer evidence e).level = .proven := by
    rw [Rule.answer, hcategory]
    exact Rule.level_failureMode ..
  have hopen : (ofEntry unitId evidence e).check ≠ none := by simp [h]
  rw [ofEntry_check_ne_none_iff] at hopen
  exact absurd (hlevel.symm.trans hopen) (by decide)

/-- A row that has a check just if its level calls for one is in one class. -/
theorem existsUnique_stands {row : Coverage} {text : String} {category : Category}
    (hanswers : row.assertion.Answers text category)
    (hcheck : row.check ≠ none ↔ row.assertion.level = .instrumented)
    (hstatus : row.assertion.passed = false → status = .failed) : ∃! s, row.Stands status s := by
  have hnone : row.assertion.level = .proven → row.check = none := by
    intro hl
    by_contra h
    exact absurd (hl.symm.trans (hcheck.1 h)) (by decide)
  cases hp : row.assertion.passed with
  | false =>
    have hl := hanswers.proven_of_failed hp
    refine ⟨.failed, ⟨hp, hstatus hp, hnone hl⟩, fun s hs => ?_⟩
    cases s with
    | failed => rfl
    | proven | checked => exact absurd (hp.symm.trans hs.1) (by decide)
  | true =>
    rcases hanswers.level_eq with hl | hl
    · refine ⟨.proven, ⟨hp, hl, hnone hl⟩, fun s hs => ?_⟩
      cases s with
      | failed => exact absurd (hp.symm.trans hs.1) (by decide)
      | proven => rfl
      | checked => exact absurd (hnone hl) hs.2.2
    · refine ⟨.checked, ⟨hp, hl, hcheck.2 hl⟩, fun s hs => ?_⟩
      cases s with
      | failed => exact absurd (hp.symm.trans hs.1) (by decide)
      | proven => exact absurd (hl.symm.trans hs.2.1) (by decide)
      | checked => rfl

theorem settled_ofEntry
    (hstatus : (ofEntry unitId evidence e).assertion.passed = false → status = .failed) :
    (ofEntry unitId evidence e).Settled status where
  answers := Rule.answers_answer evidence e
  check_iff := ofEntry_check_ne_none_iff
  check_eq := by
    intro c h
    rw [ofEntry_check_eq_some h]
    exact ⟨rfl, rfl, rfl⟩
  pre_iff _ := insertionPoint_of_check
  not_failureMode _ := category_of_check_ne
  standing := existsUnique_stands (Rule.answers_answer evidence e) ofEntry_check_ne_none_iff hstatus

end Coverage

/-! ## Contracts with their first section in front -/

namespace Contract

/-- Only the entries of `requires`, which come first, are of that section. -/
theorem exists_entries_eq_append (c : Contract) :
    ∃ rest, c.entries = c.requires.map (fun t => (Section.requires, t)) ++ rest ∧
      ∀ e ∈ rest, e.1 ≠ .requires := by
  refine ⟨[.onSuccess, .onFailure, .invariants, .fails].flatMap fun s =>
    (c.texts s).map fun text => (s, text), rfl, fun e he => ?_⟩
  obtain ⟨s, hs, he⟩ := List.mem_flatMap.1 he
  obtain ⟨text, _, rfl⟩ := List.mem_map.1 he
  rintro rfl
  simp at hs

end Contract

/-! ## The plan of a result -/

namespace Plan

theorem checks_eq_append {p : Plan} {before after : List Check} (h : p.checks = before ++ after)
    (hbefore : ∀ c ∈ before, c.insertionPoint = .pre)
    (hafter : ∀ c ∈ after, c.insertionPoint ≠ .pre) : p.checks = p.preChecks ++ p.postChecks := by
  have hpost : ∀ c ∈ after, c.insertionPoint = .post := by
    intro c hc
    cases hp : c.insertionPoint with
    | pre => exact absurd hp (hafter c hc)
    | post => rfl
  have hpreChecks : p.preChecks = before := by
    rw [preChecks, h, List.filter_append, List.filter_eq_self.2, List.filter_eq_nil_iff.2,
      List.append_nil]
    · intro c hc
      simpa using hafter c hc
    · intro c hc
      simpa using hbefore c hc
  have hpostChecks : p.postChecks = after := by
    rw [postChecks, h, List.filter_append, List.filter_eq_nil_iff.2, List.filter_eq_self.2,
      List.nil_append]
    · intro c hc
      simpa using hpost c hc
    · intro c hc
      simp [hbefore c hc]
  rw [hpreChecks, hpostChecks, h]

/-- The checks of a table are those of the assertions that need one. -/
theorem filterMap_check_ofEntry (unitId : String) (evidence : Evidence)
    (entries : List (Section × String)) :
    (entries.map (Coverage.ofEntry unitId evidence)).filterMap Coverage.check =
      ((entries.map (Rule.answer evidence)).filter Assertion.needsCheck).map
        (Check.ofAssertion unitId) := by
  induction entries with
  | nil => rfl
  | cons e rest ih =>
    simp only [List.map_cons, List.filterMap_cons, List.filter_cons, Coverage.ofEntry] at ih ⊢
    cases (Rule.answer evidence e).needsCheck with
    | true => simp only [↓reduceIte, List.map_cons, ih]
    | false => simpa using ih

variable {unitId : String} {evidence : Evidence}

theorem exists_entry_of_mem {entries : List (Section × String)} {c : Check}
    (h : c ∈ (entries.map (Coverage.ofEntry unitId evidence)).filterMap Coverage.check) :
    ∃ e ∈ entries, (Coverage.ofEntry unitId evidence e).check = some c := by
  obtain ⟨row, hrow, hc⟩ := List.mem_filterMap.1 h
  obtain ⟨e, he, rfl⟩ := List.mem_map.1 hrow
  exact ⟨e, he, hc⟩

theorem checks_eq_of_contract {p : Plan} {c : Contract}
    (h : (c.entries.map (Coverage.ofEntry unitId evidence)).filterMap Coverage.check = p.checks) :
    p.checks = p.preChecks ++ p.postChecks := by
  obtain ⟨rest, hentries, hrest⟩ := c.exists_entries_eq_append
  rw [hentries, List.map_append, List.filterMap_append] at h
  refine checks_eq_append h.symm ?_ ?_
  · intro check hcheck
    obtain ⟨e, he, hcheck⟩ := exists_entry_of_mem hcheck
    obtain ⟨text, _, rfl⟩ := List.mem_map.1 he
    exact (Coverage.insertionPoint_of_check hcheck).2 rfl
  · intro check hcheck hpre
    obtain ⟨e, he, hcheck⟩ := exists_entry_of_mem hcheck
    exact hrest e he ((Coverage.insertionPoint_of_check hcheck).1 hpre)

theorem make_eq_error_iff (u : Implementation) (r : Result) :
    (∃ f, Plan.make u r = .error f) ↔ r.unitId ≠ u.id := by
  unfold Plan.make
  split
  · next h => simp [h]
  · next h => simpa using h

/-- **Nothing is left open.** The entries of a contract, the assertions of the unit's result and the
checks of its plan are the columns of one table, whose rows are settled: each entry failed, was
proven, or has its one check. Only a result of another unit has no plan. -/
theorem make_settles_every_entry (settings : Settings) (u : Implementation)
    (outline : Option Outline) :
    (∃ r p, ({ settings : Verifier }).verify u outline = .ok r ∧ Plan.make u r = .ok p ∧
      (∃ table : List Coverage,
        table.map Coverage.entry = u.contract.entries ∧
        table.map Coverage.assertion = r.assertions ∧
        table.filterMap Coverage.check = p.checks ∧
        ∀ row ∈ table, row.Settled r.status) ∧
      p.checks = p.preChecks ++ p.postChecks) ∧
    ∀ r, (∃ f, Plan.make u r = .error f) ↔ r.unitId ≠ u.id := by
  refine ⟨?_, make_eq_error_iff u⟩
  have hchecks := filterMap_check_ofEntry u.id ⟨u.text, outline, settings⟩ u.contract.entries
  refine ⟨_, _, Verifier.verify_standard_eq settings u outline, if_pos rfl,
    ⟨u.contract.entries.map (Coverage.ofEntry u.id ⟨u.text, outline, settings⟩), ?_, ?_, hchecks, ?_⟩,
    checks_eq_of_contract hchecks⟩
  · rw [List.map_map]
    exact List.map_id' _
  · rw [List.map_map]
    rfl
  · intro row hrow
    obtain ⟨e, he, rfl⟩ := List.mem_map.1 hrow
    refine Coverage.settled_ofEntry fun hfailed => if_neg fun hall => ?_
    have hpassed := List.all_eq_true.1 hall _ (List.mem_map_of_mem he)
    exact absurd (hfailed.symm.trans hpassed) (by decide)

end Plan

end Conformance
