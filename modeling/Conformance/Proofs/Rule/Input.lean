import Conformance.Proofs.Clause.Subject
import Conformance.Proofs.Rule.Exposure
import Conformance.Proofs.Rule.FailureMode

/-! # Input clauses

An input clause names a field by a path behind `input.`. It passes if an outline shows that the
implementation reads the field, or else the text mentions it. A clause with no name behind `input.` is
not refused: the word `input` is then taken for the field.

* `Evidence.ShowsField`: the outline or the text shows that the field of a path is read.
* `Rule.passed_input_iff`: an input clause passes exactly if they do.
* `Verifier.verify_input`: the input clauses of a unit.
* `Verifier.verify_input_without_field`: those that name no field.
-/

namespace Conformance
open Text
set_option autoImplicit false

/-- A parameter of a top-level function gives the field of the path: the path is read from it, or the
pattern in its place binds the field to a name that is used. -/
def Outline.ReadsField (o : Outline) (path : String) : Prop :=
  ∃ f ∈ o.functions, ∃ p ∈ f.parameters, p.name ++ "." ++ path ∈ o.memberPaths ∨
    ∃ bound, (lastSegment path, bound) ∈ p.destructured ∧ bound ∈ o.identifiers

/-- The outline shows that the field of the path is read, or the text mentions it. -/
def Evidence.ShowsField (e : Evidence) (path : String) : Prop :=
  (∃ o, e.outline = some o ∧ o.ReadsField path) ∨ Occurs (lastSegment path) e.source

namespace Rule

variable {clause path field : String} {category : Category} {evidence : Evidence}

theorem isSome_parameterReads?_iff {o : Outline} {function : String} {p : Outline.Parameter} :
    (parameterReads? path field o function p).isSome = true ↔
      p.name ++ "." ++ path ∈ o.memberPaths ∨
        ∃ bound, (field, bound) ∈ p.destructured ∧ bound ∈ o.identifiers := by
  have hbound : (p.destructured.any fun d => d.1 == field && o.identifiers.contains d.2) = true ↔
      ∃ bound, (field, bound) ∈ p.destructured ∧ bound ∈ o.identifiers := by
    simp only [List.any_eq_true, Bool.and_eq_true, beq_iff_eq, Names.contains_eq_true_iff]
    constructor
    · rintro ⟨⟨key, bound⟩, hmem, rfl, hused⟩
      exact ⟨bound, hmem, hused⟩
    · rintro ⟨bound, hmem, hused⟩
      exact ⟨(field, bound), hmem, rfl, hused⟩
  rw [← hbound, ← Names.contains_eq_true_iff, parameterReads?]
  split
  · next h => exact iff_of_true rfl (.inl h)
  · next h =>
    split
    · next h' => exact iff_of_true rfl (.inr h')
    · next h' => exact iff_of_false Bool.false_ne_true (not_or.2 ⟨h, h'⟩)

/-- The place of the evidence in the outline is of no account. -/
theorem isSome_outlineReads?_iff {o : Outline} :
    (outlineReads? path (lastSegment path) o).isSome = true ↔ o.ReadsField path := by
  rw [outlineReads?, List.findSome?_isSome_iff]
  refine exists_congr fun f => and_congr_right fun _ => ?_
  rw [List.findSome?_isSome_iff]
  exact exists_congr fun p => and_congr_right fun _ => isSome_parameterReads?_iff

/-- What is said of a field that nothing shows to be read. -/
def unreadMessage (field : String) : String :=
  "input field '" ++ field ++ "' not referenced in implementation"

section

variable (hpath : fieldPath clause = path) (hfield : lastSegment path ≠ "")
include hpath hfield

/-- The branch for a clause that names no field is out of the way. -/
theorem assessInput_eq : assessInput clause category evidence =
    match evidence.outline.bind (outlineReads? path (lastSegment path)) with
    | some reading =>
      settled clause category true ("input field '" ++ lastSegment path ++ "' " ++ reading)
    | none =>
      if containsWord evidence.source (lastSegment path) then
        settled clause category true
          ("input field '" ++ lastSegment path ++ "' referenced in implementation text")
      else settled clause category false (unreadMessage (lastSegment path)) := by
  have hempty : (lastSegment path).isEmpty = false := by
    rw [← Bool.not_eq_true, String.isEmpty_iff]
    exact hfield
  unfold assessInput
  dsimp only
  rw [hpath, hempty, if_neg Bool.false_ne_true]
  rfl

theorem passed_input_iff :
    (assessInput clause category evidence).passed = true ↔ evidence.ShowsField path := by
  have hreads : (evidence.outline.bind (outlineReads? path (lastSegment path))).isSome = true ↔
      ∃ o, evidence.outline = some o ∧ o.ReadsField path := by
    cases evidence.outline with
    | none => simp
    | some o => simp [isSome_outlineReads?_iff]
  rw [assessInput_eq hpath hfield, Evidence.ShowsField, ← hreads, ← containsWord_iff_occurs]
  split
  · next hreading => exact iff_of_true rfl (.inl (by rw [hreading]; rfl))
  · next hnone =>
    rw [hnone]
    split
    · next h => exact iff_of_true rfl (.inr h)
    · next h => exact iff_of_false Bool.false_ne_true (not_or.2 ⟨Bool.false_ne_true, h⟩)

/-- A clause that fails names its field. -/
theorem message_of_failed_input (hfailed : (assessInput clause category evidence).passed = false) :
    (assessInput clause category evidence).message = unreadMessage (lastSegment path) := by
  rw [assessInput_eq hpath hfield] at hfailed ⊢
  split at hfailed
  · cases hfailed
  · split at hfailed
    · cases hfailed
    · next h => rw [if_neg h]; rfl

/-- Whatever the outcome, the field is named. -/
theorem exists_message_input :
    ∃ remark, (assessInput clause category evidence).message =
      "input field '" ++ lastSegment path ++ remark := by
  rw [assessInput_eq hpath hfield]
  split
  · next reading _ => exact ⟨"' " ++ reading, String.append_assoc ..⟩
  · split
    · exact ⟨_, rfl⟩
    · exact ⟨_, rfl⟩

end

/-! ## Paths -/

theorem lastSegment_ne_empty (h : IsDottedName path.toList) : lastSegment path ≠ "" := by
  intro hempty
  apply h.lastSegmentChars_ne_nil
  rw [lastSegment, ← String.toList_inj, String.toList_ofList] at hempty
  exact hempty

theorem fieldPath_of_ledBy (h : Clause.LedBy ("input." ++ path) clause) : fieldPath clause = path := by
  have hafter : after? "input.".toList ("input." ++ path).toList = some path.toList :=
    after?_eq_some_iff.2 (String.toList_append ..)
  unfold fieldPath
  rw [Clause.subject?_eq_some_iff.2 h]
  dsimp only [Option.getD_some]
  rw [hafter, Option.map_some, Option.getD_some, String.ofList_toList]

theorem fieldPath_of_input (h : Clause.LedBy "input" clause) : fieldPath clause = "input" := by
  unfold fieldPath
  rw [Clause.subject?_eq_some_iff.2 h]
  rfl

/-! ## Answers -/

theorem answer_input (evidence : Evidence) {e : Section × String}
    (h : Clause.category e.2 e.1 = .inputPrecondition) :
    answer evidence e = assessInput e.2 .inputPrecondition evidence := by
  unfold answer
  rw [h]
  dsimp only [ofCategory, input]

end Rule

namespace Verifier

/-- **An input clause passes just if its field is read.** The assertion on a clause that starts with
`input.` and a path is settled by syntax, and passes exactly if the outline shows that the field is
read or the text mentions it. -/
theorem verify_input (settings : Settings) (u : Implementation) (outline : Option Outline) :
    ∃ r, ({ settings : Verifier }).verify u outline = .ok r ∧
      List.Forall₂ (fun e a => ∀ path, e.1 = .requires → Clause.LedBy ("input." ++ path) e.2 →
          a.level = .proven ∧
          (a.passed = true ↔
            (∃ o, outline = some o ∧ ∃ f ∈ o.functions, ∃ p ∈ f.parameters,
              p.name ++ "." ++ path ∈ o.memberPaths ∨
                ∃ bound, (lastSegment path, bound) ∈ p.destructured ∧ bound ∈ o.identifiers) ∨
            Occurs (lastSegment path) u.text))
        u.contract.entries r.assertions := by
  refine exists_verify_of_answers ?_
  rintro ⟨s, clause⟩ path rfl hled
  have hcategory : Clause.category clause .requires = .inputPrecondition :=
    Clause.category_eq_input_iff.2 hled.opensInput
  have hfield := Rule.lastSegment_ne_empty hled.isDottedName_path
  rw [Rule.answer_input _ hcategory]
  exact ⟨Rule.level_input .., Rule.passed_input_iff (Rule.fieldPath_of_ledBy hled) hfield⟩

/-- The second parameter of the second function binds the field, and the text does not mention it; the
field of the other clause occurs only in a longer name. -/
theorem verify_input_of_bound_name :
    let plain : Outline.Parameter := ⟨"user", none, []⟩
    let pattern : Outline.Parameter := ⟨"{...}", none, [("id", "key"), ("email", "mail")]⟩
    let f (ps : List Outline.Parameter) : Outline.Function := ⟨"f", 1, ps, none, false⟩
    let o : Outline := ⟨"typescript", [f [plain], f [plain, pattern]], .ofList ["mail", "user"],
      .ofList ["user.names"], [], [], [], true⟩
    let u : Implementation := ⟨"a.b", "",
      { Contract.empty with requires := [" input.user.email is String", "input.name is String"] },
      "names", none, .typescript⟩
    ∃ r a b, ({} : Verifier).verify u (some o) = .ok r ∧ r.assertions = [a, b] ∧
      a.level = .proven ∧ a.passed = true ∧ b.level = .proven ∧ b.passed = false := by
  intro plain pattern f o u
  obtain ⟨r, hr, hassertions⟩ := verify_input {} u (some o)
  obtain ⟨a, rest, ha, hrest, heq⟩ := List.forall₂_cons_left_iff.1 hassertions
  obtain ⟨b, rest', hb, hrest', rfl⟩ := List.forall₂_cons_left_iff.1 hrest
  cases hrest'
  obtain ⟨hlevel, hpassed⟩ := ha "user.email" rfl (Clause.subject?_eq_some_iff.1 (by decide))
  obtain ⟨hlevel', hpassed'⟩ := hb "name" rfl (Clause.subject?_eq_some_iff.1 (by decide))
  have hbound : (lastSegment "user.email", "mail") ∈ pattern.destructured := by decide
  have hread := hpassed.2 (.inl ⟨o, rfl, f [plain, pattern], by simp [o], pattern, by simp [f],
    .inr ⟨"mail", hbound, by simp [o]⟩⟩)
  have hunread : ¬ b.passed = true := by
    rw [hpassed', ← containsWord_iff_occurs]
    rintro (⟨o', ho, g, hg, p, hp, hplace⟩ | htext)
    · cases ho
      have hname : lastSegment "name" = "name" := by decide
      rw [hname] at hplace
      have hparameters : p = plain ∨ p = pattern := by
        simp only [o, List.mem_cons, List.not_mem_nil, or_false] at hg
        rcases hg with rfl | rfl <;> simp [f] at hp <;> simp [hp]
      rcases hparameters with rfl | rfl <;> simp [o, plain, pattern] at hplace
    · exact absurd htext (by decide)
  exact ⟨r, a, b, hr, heq, hlevel, hread, hlevel', Bool.eq_false_iff.2 hunread⟩

/-- **The word `input` stands in for a field that is not named.** A clause with `input.` and no name behind
it is answered as if it named the field `input`: it passes if that is read, and else fails for this
field, never for want of a name. -/
theorem verify_input_without_field (settings : Settings) (u : Implementation)
    (outline : Option Outline) :
    (∃ r, ({ settings : Verifier }).verify u outline = .ok r ∧
      List.Forall₂ (fun e a => e.1 = .requires → Clause.category e.2 .requires = .inputPrecondition →
          (∀ rest, Clause.OpensInput e.2 rest → headIs isNameStart rest = false) →
          a.level = .proven ∧ (∃ remark, a.message = "input field 'input" ++ remark) ∧
          (a.passed = true ↔
            (∃ o, outline = some o ∧ ∃ f ∈ o.functions, ∃ p ∈ f.parameters,
              p.name ++ "." ++ "input" ∈ o.memberPaths ∨
                ∃ bound, ("input", bound) ∈ p.destructured ∧ bound ∈ o.identifiers) ∨
            Occurs "input" u.text) ∧
          (a.passed = false → a.message = Rule.unreadMessage "input" ∧ r.status = .failed))
        u.contract.entries r.assertions) ∧
    ∀ clause, Clause.category clause .requires = .inputPrecondition ↔
      ∃ rest, Clause.OpensInput clause rest := by
  refine ⟨⟨_, verify_standard_eq settings u outline, ?_⟩, fun _ => Clause.category_eq_input_iff⟩
  rw [List.forall₂_map_right_iff, List.forall₂_same]
  rintro ⟨s, clause⟩ he rfl hcategory hnone
  obtain ⟨rest, hopens⟩ := Clause.category_eq_input_iff.1 hcategory
  have hpath := Rule.fieldPath_of_input (Clause.ledBy_input hopens (hnone rest hopens))
  have hname : lastSegment "input" = "input" := by decide
  have hfield : lastSegment "input" ≠ "" := by decide
  dsimp only
  rw [Rule.answer_input _ hcategory]
  refine ⟨Rule.level_input .., ?_, ?_, fun hfailed => ⟨?_, ?_⟩⟩
  · obtain ⟨remark, hremark⟩ := Rule.exists_message_input hpath hfield
    have hjoined : "input field '" ++ "input" = "input field 'input" := by decide
    rw [hname, hjoined] at hremark
    exact ⟨remark, hremark⟩
  · rw [Rule.passed_input_iff hpath hfield]
    unfold Evidence.ShowsField Outline.ReadsField
    rw [hname]
  · rw [Rule.message_of_failed_input hpath hfield hfailed, hname]
  · refine status_eq_failed (verify_standard_eq settings u outline) he ?_
    rw [Rule.answer_input _ hcategory]
    exact hfailed

/-- Only a longer name stands in the text, so the clause fails, but not for want of a name. -/
theorem verify_input_without_field_of_longer_name :
    let clause := "  input.2nd is given"
    let u : Implementation :=
      ⟨"a.b", "", { Contract.empty with requires := [clause] }, "return inputs", none, .typescript⟩
    ∃ r a, ({} : Verifier).verify u none = .ok r ∧ r.assertions = [a] ∧ r.status = .failed ∧
      a.level = .proven ∧ a.passed = false ∧ a.message = Rule.unreadMessage "input" ∧
      a.message ≠ "no input field named in precondition" := by
  intro clause u
  obtain ⟨⟨r, hr, hassertions⟩, hinput⟩ := verify_input_without_field {} u none
  obtain ⟨a, rest, ha, hrest, heq⟩ := List.forall₂_cons_left_iff.1 hassertions
  cases hrest
  have hnone : ∀ rest, Clause.OpensInput clause rest → headIs isNameStart rest = false := by
    intro rest hopens
    have hrest : "2nd is given".toList = rest := List.append_cancel_left
      ((by decide : _ = clause.toList.dropWhile isSpace).trans (Clause.opensInput_iff.1 hopens))
    rw [← hrest]
    decide
  obtain ⟨hlevel, -, hpassed, hfailed⟩ := ha rfl (by decide) hnone
  have hunread : a.passed = false := by
    rw [← Bool.not_eq_true, hpassed, ← containsWord_iff_occurs]
    rintro (⟨o, ho, -⟩ | htext)
    · cases ho
    · exact absurd htext (by decide)
  obtain ⟨hmessage, hstatus⟩ := hfailed hunread
  exact ⟨r, a, hr, heq, hstatus, hlevel, hunread, hmessage, by rw [hmessage]; decide⟩

/-- The word `input` is in the text, and so the clause passes. -/
theorem verify_takes_input_for_field :
    let clause := "input. is given"
    let u : Implementation := ⟨"a.b", "", { Contract.empty with requires := [clause] },
      "fn f(input: &str) {}", none, .rust⟩
    Clause.category clause .requires = .inputPrecondition ∧
      Clause.OpensInput clause " is given".toList ∧ headIs isNameStart " is given".toList = false ∧
      ({} : Verifier).verify u none = .ok ⟨"a.b", .proven,
        [⟨clause, .inputPrecondition, true, .proven,
          "input field 'input' referenced in implementation text"⟩], []⟩ := by
  intro clause u
  refine ⟨by decide, ⟨[], by decide, by simp⟩, by decide, ?_⟩
  decide +kernel

end Verifier

end Conformance
