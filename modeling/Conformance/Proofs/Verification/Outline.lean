import Conformance.Proofs.Verification

/-! # Verification with an outline and without one

An outline is evidence beside the text, never in its place: a clause that the text alone settles in
favour of the unit stays settled. Invariants are the exception, and there only an outline that was
read without a syntax error counts.

* `Assertion.Supported`: how an assertion made with an outline relates to the one made without.
* `Verifier.verify_outline_supports`: every assertion of a result is so related.
-/

namespace Conformance
set_option autoImplicit false

/-- What becomes of an assertion `a`, made from the text alone, when the outline is there too:
`b`. -/
structure Assertion.Supported (o : Outline) (a b : Assertion) : Prop where
  text_eq : b.text = a.text
  category_eq : b.category = a.category
  passed_of_passed : a.category ≠ .invariant → a.passed = true → b.passed = true
  proven_of_proven : a.category ≠ .invariant → a.level = .proven → b.level = .proven
  passed_eq : a.category ≠ .inputPrecondition → a.category ≠ .invariant → b.passed = a.passed
  eq_of_not_clean : a.category = .invariant → o.clean = false → b = a

/-- Outside of invariants it is enough that nothing proven is taken back. -/
theorem Assertion.Supported.of_passed_eq {o : Outline} {text : String} {category : Category}
    {a b : Assertion} (ha : a.Answers text category) (hb : b.Answers text category)
    (hcategory : category ≠ .invariant) (hpassed : b.passed = a.passed)
    (hproven : a.level = .proven → b.level = .proven) : Supported o a b where
  text_eq := hb.text_eq.trans ha.text_eq.symm
  category_eq := hb.category_eq.trans ha.category_eq.symm
  passed_of_passed _ h := hpassed.trans h
  proven_of_proven _ := hproven
  passed_eq _ _ := hpassed
  eq_of_not_clean h := absurd (ha.category_eq.symm.trans h) hcategory

namespace Rule

variable (text : String) (category : Category) (source : String) (settings : Settings) (o : Outline)

/-! ## Input clauses -/

/-- Where the text shows that the field is read, the outline need not. -/
theorem passed_input_of_text
    (h : (assessInput text category ⟨source, none, settings⟩).passed = true) :
    (assessInput text category ⟨source, some o, settings⟩).passed = true := by
  unfold assessInput at h ⊢
  dsimp only [Option.bind_none, Option.bind_some] at h ⊢
  split at h
  · cases h
  · next hfield =>
    rw [if_neg hfield]
    split at h
    · next hword =>
      rw [if_pos hword]
      split <;> rfl
    · cases h

theorem supported_input :
    Assertion.Supported o (assessInput text .inputPrecondition ⟨source, none, settings⟩)
      (assessInput text .inputPrecondition ⟨source, some o, settings⟩) := by
  have ha := answers_input text .inputPrecondition ⟨source, none, settings⟩
  have hb := answers_input text .inputPrecondition ⟨source, some o, settings⟩
  exact {
    text_eq := hb.text_eq.trans ha.text_eq.symm
    category_eq := hb.category_eq.trans ha.category_eq.symm
    passed_of_passed := fun _ => passed_input_of_text text _ source settings o
    proven_of_proven := fun _ _ => level_input text _ _
    passed_eq := fun h => absurd ha.category_eq h
    eq_of_not_clean := fun h => absurd (ha.category_eq.symm.trans h) (by decide) }

/-! ## Dependencies -/

theorem assess_system (evidence : Evidence) :
    system.assess text category evidence =
      deferred text category "external dependency, checked at runtime" := rfl

theorem supported_system :
    Assertion.Supported o (system.assess text .systemPrecondition ⟨source, none, settings⟩)
      (system.assess text .systemPrecondition ⟨source, some o, settings⟩) := by
  rw [assess_system, assess_system]
  exact .of_passed_eq (answers_deferred ..) (answers_deferred ..) (by decide) rfl id

/-! ## Guarantees -/

theorem passed_guarantee (evidence : Evidence) :
    (assessGuarantee text category evidence).passed = true := by
  unfold assessGuarantee
  dsimp only
  split <;> rfl

/-- Only a declared return type proves a guarantee. -/
theorem level_guarantee_of_text :
    (assessGuarantee text category ⟨source, none, settings⟩).level = .instrumented := by
  have hdeclared : (if category = .precondition then none
      else (Clause.resultType? text).bind fun type =>
        (none : Option Outline).bind (declaresResult? type)) = none := by
    split
    · rfl
    · cases Clause.resultType? text <;> rfl
  unfold assessGuarantee
  simp only [hdeclared]
  rfl

theorem supported_guarantee (hcategory : category ≠ .invariant) :
    Assertion.Supported o (assessGuarantee text category ⟨source, none, settings⟩)
      (assessGuarantee text category ⟨source, some o, settings⟩) := by
  refine .of_passed_eq (answers_guarantee ..) (answers_guarantee ..) hcategory ?_ fun hproven => ?_
  · rw [passed_guarantee, passed_guarantee]
  · rw [level_guarantee_of_text] at hproven
    cases hproven

/-! ## Declared failures -/

theorem passed_failureMode (evidence : Evidence) :
    (assessFailureMode text category evidence).passed = Text.containsWord evidence.source text := by
  unfold assessFailureMode
  split
  · next h => exact h.symm
  · next h => exact (Bool.eq_false_iff.2 h).symm

theorem supported_failureMode (hcategory : category ≠ .invariant) :
    Assertion.Supported o (assessFailureMode text category ⟨source, none, settings⟩)
      (assessFailureMode text category ⟨source, some o, settings⟩) := by
  refine .of_passed_eq (answers_failureMode ..) (answers_failureMode ..) hcategory ?_ fun _ => ?_
  · rw [passed_failureMode, passed_failureMode]
  · exact level_failureMode ..

/-! ## Invariants -/

theorem assessInvariant_of_not_clean (h : o.clean = false) :
    assessInvariant text category ⟨source, some o, settings⟩ =
      assessInvariant text category ⟨source, none, settings⟩ := by
  have hfilter : (some o).filter (fun o => o.clean) = none := by simp [Option.filter_some, h]
  simp only [assessInvariant, assessExposure, hfilter, Option.filter_none]

theorem supported_invariant :
    Assertion.Supported o (assessInvariant text .invariant ⟨source, none, settings⟩)
      (assessInvariant text .invariant ⟨source, some o, settings⟩) := by
  have ha := answers_invariant text .invariant ⟨source, none, settings⟩
  have hb := answers_invariant text .invariant ⟨source, some o, settings⟩
  exact {
    text_eq := hb.text_eq.trans ha.text_eq.symm
    category_eq := hb.category_eq.trans ha.category_eq.symm
    passed_of_passed := fun h => absurd ha.category_eq h
    proven_of_proven := fun h => absurd ha.category_eq h
    passed_eq := fun _ h => absurd ha.category_eq h
    eq_of_not_clean := fun _ => assessInvariant_of_not_clean text _ source settings o }

/-! ## All rules -/

theorem supported_assess :
    Assertion.Supported o ((ofCategory category).assess text category ⟨source, none, settings⟩)
      ((ofCategory category).assess text category ⟨source, some o, settings⟩) := by
  cases category <;> dsimp only [ofCategory, input, guarantee, invariant, failureMode]
  case inputPrecondition => exact supported_input text source settings o
  case systemPrecondition => exact supported_system text source settings o
  case precondition => exact supported_guarantee text _ source settings o (by decide)
  case successGuarantee => exact supported_guarantee text _ source settings o (by decide)
  case failureGuarantee => exact supported_guarantee text _ source settings o (by decide)
  case invariant => exact supported_invariant text source settings o
  case failureMode => exact supported_failureMode text _ source settings o (by decide)

end Rule

namespace Verifier

/-- **An outline only adds.** Position by position, what the text alone lets pass or proves stays so
with an outline, invariants apart; only input clauses may pass by the outline alone; an outline with
a syntax error has no say in invariants. -/
theorem verify_outline_supports (settings : Settings) (u : Implementation) (o : Outline) :
    ∃ r s, ({ settings : Verifier }).verify u none = .ok r ∧
      ({ settings : Verifier }).verify u (some o) = .ok s ∧
      List.Forall₂ (Assertion.Supported o) r.assertions s.assertions := by
  refine ⟨_, _, verify_standard_eq settings u none, verify_standard_eq settings u (some o), ?_⟩
  rw [List.forall₂_map_left_iff, List.forall₂_map_right_iff, List.forall₂_same]
  exact fun e _ => Rule.supported_assess ..

end Verifier

end Conformance
