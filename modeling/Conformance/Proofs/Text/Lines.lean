import Conformance.Text.Lines

/-! # Lines of a text

A line ends with a line feed, with a carriage return, or with the two together.

* `lines`: the lines of a text with their ends. The last one has no end and may be empty.
* `flatten_lines`: together they are the text.
* `unifyLineEnds_append`: line ends of one kind, behind characters that end no line.
* `tail_lines_append`: characters that end no line change the first line alone.
-/

namespace Conformance.Text
set_option autoImplicit false

def isLineEnd (c : Char) : Bool := c == '\n' || c == '\r'

def lines : List Char → List (List Char)
  | [] => [[]]
  | '\r' :: '\n' :: r => ['\r', '\n'] :: lines r
  | c :: r => if isLineEnd c then [c] :: lines r else (lines r).modifyHead (c :: ·)

variable {c : Char} {cs front : List Char}

theorem eq_of_isLineEnd (h : isLineEnd c = true) : c = '\n' ∨ c = '\r' := by
  simpa [isLineEnd] using h

theorem ne_of_not_isLineEnd (h : ¬ isLineEnd c = true) : c ≠ '\n' ∧ c ≠ '\r' := by
  simpa [isLineEnd] using h

theorem not_isLineEnd_of_all (h : cs.all (!isLineEnd ·) = true) : ∀ c ∈ cs, ¬ isLineEnd c = true := by
  simpa only [List.all_eq_true, Bool.not_eq_true', Bool.not_eq_true] using h

theorem lines_ne_nil (cs : List Char) : lines cs ≠ [] := by
  fun_induction lines cs with
  | case4 c r _ _ ih =>
    obtain ⟨line, more, hlines⟩ := List.exists_cons_of_ne_nil ih
    rw [hlines]
    exact List.cons_ne_nil _ _
  | _ => exact List.cons_ne_nil _ _

theorem length_lines (cs : List Char) : (lines cs).length = (lines cs).tail.length + 1 := by
  have hpos := List.length_pos_iff.2 (lines_ne_nil cs)
  rw [List.length_tail]
  omega

theorem lines_of_not_isLineEnd (hc : ¬ isLineEnd c = true) (cs : List Char) :
    lines (c :: cs) = (lines cs).modifyHead (c :: ·) := by
  obtain ⟨-, hreturn⟩ := ne_of_not_isLineEnd hc
  rw [lines, if_neg hc]
  exact fun _ h => absurd h hreturn

theorem lines_lineFeed (cs : List Char) : lines ('\n' :: cs) = ['\n'] :: lines cs := by
  rw [lines]
  · rfl
  · exact fun _ h => absurd h (by decide)

theorem flatten_lines (cs : List Char) : (lines cs).flatten = cs := by
  fun_induction lines cs with
  | case1 => rfl
  | case2 r ih => rw [List.flatten_cons, ih]; rfl
  | case3 c r _ _ ih => rw [List.flatten_cons, ih]; rfl
  | case4 c r _ _ ih =>
    obtain ⟨line, more, hlines⟩ := List.exists_cons_of_ne_nil (lines_ne_nil r)
    rw [hlines, List.flatten_cons] at ih
    rw [hlines, List.modifyHead_cons, List.flatten_cons, List.cons_append, ih]

theorem unifyLineEnds_of_not_isLineEnd (hc : ¬ isLineEnd c = true) (cs : List Char) :
    unifyLineEnds (c :: cs) = c :: unifyLineEnds cs := by
  obtain ⟨-, hreturn⟩ := ne_of_not_isLineEnd hc
  rw [unifyLineEnds]
  · exact fun _ h => absurd h hreturn
  · exact fun h => absurd h hreturn

theorem unifyLineEnds_append (hfront : ∀ c ∈ front, ¬ isLineEnd c = true) (back : List Char) :
    unifyLineEnds (front ++ back) = front ++ unifyLineEnds back := by
  induction front with
  | nil => rfl
  | cons c r ih =>
    rw [List.forall_mem_cons] at hfront
    rw [List.cons_append, unifyLineEnds_of_not_isLineEnd hfront.1, ih hfront.2, List.cons_append]

theorem unifyLineEnds_of_isLineEnd (hc : isLineEnd c = true)
    (hpair : ∀ r, c = '\r' → cs = '\n' :: r → False) :
    unifyLineEnds (c :: cs) = '\n' :: unifyLineEnds cs := by
  rcases eq_of_isLineEnd hc with rfl | rfl
  · rw [unifyLineEnds]
    · exact fun _ h => absurd h (by decide)
    · exact fun h => absurd h (by decide)
  · rw [unifyLineEnds]
    exact fun r hcs => hpair r rfl hcs

theorem unifyLineEnds_lineFeed (cs : List Char) :
    unifyLineEnds ('\n' :: cs) = '\n' :: unifyLineEnds cs :=
  unifyLineEnds_of_isLineEnd rfl fun _ h => absurd h (by decide)

theorem tail_lines_append (hfront : ∀ c ∈ front, ¬ isLineEnd c = true) (back : List Char) :
    (lines (front ++ back)).tail = (lines back).tail := by
  induction front with
  | nil => rfl
  | cons c r ih =>
    rw [List.forall_mem_cons] at hfront
    rw [List.cons_append, lines_of_not_isLineEnd hfront.1, List.tail_modifyHead, ih hfront.2]

theorem length_lines_append (hfront : ∀ c ∈ front, ¬ isLineEnd c = true) (back : List Char) :
    (lines (front ++ back)).length = (lines back).length := by
  induction front with
  | nil => rfl
  | cons c r ih =>
    rw [List.forall_mem_cons] at hfront
    rw [List.cons_append, lines_of_not_isLineEnd hfront.1, List.length_modifyHead, ih hfront.2]

end Conformance.Text
