import Mathlib.Data.List.TakeWhile
import Conformance.Clause.Category
import Conformance.Clause.Subject
import Conformance.Proofs.Text.DottedName
import Conformance.Proofs.Text.Segment

/-! # What a clause starts with

A clause is about the dotted name it starts with, blanks apart. An input clause starts with `input.`;
if a name follows, the two make up one dotted name, and otherwise the clause starts with the name
`input` alone.

* `LedBy`: the dotted name a clause starts with.
* `OpensInput`: what stands behind a leading `input.`.
* `category_eq_input_iff`: the input clauses.
* `ledBy_input`: an input clause with no name behind `input.` starts with `input` alone.
-/

namespace Conformance.Text
set_option autoImplicit false

variable {c : Char} {cs name : List Char}

theorem lastSegmentChars_ne_nil_of_tail (h : IsNameTail cs) (hc : c ≠ '.') :
    lastSegmentChars (c :: cs) ≠ [] := by
  induction h generalizing c with
  | nil => simp [lastSegmentChars, hc]
  | @char d cs hd _ ih =>
    have hdot : d ≠ '.' := by
      rintro rfl
      rw [isNameChar_dot] at hd
      cases hd
    rw [lastSegmentChars]
    split
    · exact ih hdot
    · simp
  | @dot d cs hd _ ih =>
    rw [lastSegmentChars, if_pos (by simp), lastSegmentChars]
    split
    · exact ih (ne_dot_of_isNameStart hd)
    · rw [if_pos rfl]
      exact List.cons_ne_nil _ _

/-- The last part of a dotted name is not empty. -/
theorem IsDottedName.lastSegmentChars_ne_nil (h : IsDottedName name) :
    lastSegmentChars name ≠ [] := by
  cases name with
  | nil => exact h.elim
  | cons c cs => exact lastSegmentChars_ne_nil_of_tail h.2 (ne_dot_of_isNameStart h.1)

end Conformance.Text

namespace Conformance.Clause
open Text
set_option autoImplicit false

/-! ## The leading name -/

/-- Blanks apart, the clause starts with the dotted name, and with no longer one. -/
def LedBy (subject clause : String) : Prop :=
  IsDottedName subject.toList ∧ ∃ blanks rest, clause.toList = blanks ++ (subject.toList ++ rest) ∧
    (∀ c ∈ blanks, isSpace c = true) ∧ EndsName rest

variable {clause subject path : String} {blanks text rest : List Char}

theorem dropWhile_blanks (hblanks : ∀ c ∈ blanks, isSpace c = true)
    (htext : headIs isSpace text = false) : (blanks ++ text).dropWhile isSpace = text := by
  rw [List.dropWhile_append_of_pos hblanks]
  cases text with
  | nil => rfl
  | cons c r => exact List.dropWhile_cons_of_neg (by rw [show isSpace c = false from htext]; decide)

theorem headIs_isSpace_of_dottedName {name : List Char} (h : IsDottedName name) :
    headIs isSpace (name ++ rest) = false := by
  cases name with
  | nil => exact h.elim
  | cons c r =>
    cases hspace : isSpace c with
    | false => exact hspace
    | true =>
      have hchar := isNameChar_of_isNameStart h.1
      rw [isNameChar_eq_false_of_isSpace hspace] at hchar
      cases hchar

theorem subject?_eq_some_iff : subject? clause = some subject ↔ LedBy subject clause := by
  rw [subject?, Option.map_eq_some_iff]
  constructor
  · rintro ⟨name, hname, rfl⟩
    obtain ⟨hdotted, rest, htext, hrest⟩ := dottedName?_eq_some_iff.1 hname
    refine ⟨by rwa [String.toList_ofList], clause.toList.takeWhile isSpace, rest, ?_, ?_, hrest⟩
    · rw [String.toList_ofList, ← htext, List.takeWhile_append_dropWhile]
    · exact fun c hc => List.mem_takeWhile_imp hc
  · rintro ⟨hdotted, blanks, rest, hclause, hblanks, hrest⟩
    refine ⟨subject.toList, dottedName?_eq_some_iff.2 ⟨hdotted, rest, ?_, hrest⟩, String.ofList_toList⟩
    rw [hclause, dropWhile_blanks hblanks (headIs_isSpace_of_dottedName hdotted)]

/-! ## Input clauses -/

/-- Blanks apart, the clause starts with `input.`, and `rest` follows. -/
def OpensInput (clause : String) (rest : List Char) : Prop :=
  ∃ blanks, clause.toList = blanks ++ ("input.".toList ++ rest) ∧ ∀ c ∈ blanks, isSpace c = true

theorem opensInput_iff :
    OpensInput clause rest ↔ clause.toList.dropWhile isSpace = "input.".toList ++ rest := by
  constructor
  · rintro ⟨blanks, hclause, hblanks⟩
    have hhead : headIs isSpace ("input.".toList ++ rest) = false := (by decide : isSpace 'i' = false)
    rw [hclause, dropWhile_blanks hblanks hhead]
  · intro htext
    refine ⟨clause.toList.takeWhile isSpace, ?_, fun c hc => List.mem_takeWhile_imp hc⟩
    rw [← htext, List.takeWhile_append_dropWhile]

theorem category_eq_input_iff :
    category clause .requires = .inputPrecondition ↔ ∃ rest, OpensInput clause rest := by
  have hopens : opensWith "input." clause = true ↔ ∃ rest, OpensInput clause rest := by
    rw [opensWith, Option.isSome_iff_exists]
    exact exists_congr fun rest => after?_eq_some_iff.trans opensInput_iff.symm
  rw [← hopens]
  simp only [category]
  split
  · next h => exact iff_of_true rfl h
  · next h =>
    refine iff_of_false (fun hcategory => ?_) h
    split at hcategory <;> cases hcategory

theorem isDottedName_input : IsDottedName "input".toList := by
  have hchars : ∀ c ∈ "nput".toList, isNameChar c = true := forall_of_all (by decide)
  exact ⟨by decide, isNameTail_of_forall hchars⟩

theorem toList_input (path : String) :
    ("input." ++ path).toList = "input".toList ++ '.' :: path.toList := by
  rw [String.toList_append]
  rfl

/-- With no name behind it, `input.` leaves the clause with the name `input`. -/
theorem ledBy_input (h : OpensInput clause rest) (hnone : headIs isNameStart rest = false) :
    LedBy "input" clause := by
  obtain ⟨blanks, hclause, hblanks⟩ := h
  refine ⟨isDottedName_input, blanks, '.' :: rest, hclause, hblanks, isNameChar_dot, ?_⟩
  intro cs hdot
  rw [← (List.cons.inj hdot).2]
  exact hnone

/-- Behind `input.` a dotted name is left. -/
theorem LedBy.isDottedName_path (h : LedBy ("input." ++ path) clause) : IsDottedName path.toList := by
  have hname := h.1
  rw [toList_input] at hname
  exact isNameTail_cons_dot.1 (isNameTail_of_append hname.2 (by decide))

theorem LedBy.opensInput (h : LedBy ("input." ++ path) clause) : ∃ rest, OpensInput clause rest := by
  obtain ⟨-, blanks, rest, hclause, hblanks, -⟩ := h
  refine ⟨path.toList ++ rest, blanks, ?_, hblanks⟩
  rw [hclause, String.toList_append, List.append_assoc]

end Conformance.Clause
