import Conformance.Text.Trim

/-! # Parts between separators

* `splitOn_append_sep`, `splitOn_eq_singleton`: taking a text apart at a separator, and a text without one.
* `not_mem_of_mem_splitOn`, `exists_part_iff`: what stands in the parts.
* `head?_intercalate`: how parts that are put together start.
* `splitString_intercalate`: parts that were put together come apart again.
-/

namespace Conformance.Text
set_option autoImplicit false

variable {c sep : Char} {cs part : List Char}

/-! ## Taking apart -/

theorem splitOn_ne_nil (sep : Char) (cs : List Char) : splitOn sep cs ≠ [] := by
  cases cs with
  | nil => simp [splitOn]
  | cons c r =>
    rw [splitOn]
    split
    · simp
    · split <;> simp

theorem splitOn_append_sep (sep : Char) (front back : List Char) :
    splitOn sep (front ++ sep :: back) = splitOn sep front ++ splitOn sep back := by
  induction front with
  | nil => rw [List.nil_append, splitOn.eq_2, if_pos rfl, splitOn.eq_1, List.singleton_append]
  | cons c r ih =>
    obtain ⟨part, parts, hsplit⟩ := List.exists_cons_of_ne_nil (splitOn_ne_nil sep r)
    rw [List.cons_append, splitOn, splitOn, ih, hsplit]
    by_cases hc : c = sep
    · rw [if_pos hc, if_pos hc, List.cons_append, List.cons_append, List.cons_append]
    · rw [if_neg hc, if_neg hc, List.cons_append, List.cons_append]

theorem splitOn_cons_self (sep : Char) (cs : List Char) :
    splitOn sep (sep :: cs) = [] :: splitOn sep cs := by
  rw [splitOn, if_pos rfl]

theorem splitOn_cons_of_ne (hc : c ≠ sep) (cs : List Char) :
    ∃ part parts, splitOn sep cs = part :: parts ∧ splitOn sep (c :: cs) = (c :: part) :: parts := by
  obtain ⟨part, parts, hsplit⟩ := List.exists_cons_of_ne_nil (splitOn_ne_nil sep cs)
  exact ⟨part, parts, hsplit, by rw [splitOn, if_neg hc, hsplit]⟩

theorem splitOn_eq_singleton {sep : Char} (h : sep ∉ cs) : splitOn sep cs = [cs] := by
  induction cs with
  | nil => rfl
  | cons c r ih =>
    rw [List.mem_cons, not_or] at h
    rw [splitOn, if_neg (Ne.symm h.1), ih h.2]

theorem splitOn_eq (sep : Char) (cs : List Char) : splitOn sep cs = cs.splitOn sep := by
  induction cs with
  | nil => rfl
  | cons c r ih =>
    rw [List.splitOn, List.splitOnP_cons_eq_if_modifyHead, ← List.splitOn, ← ih]
    by_cases hc : c = sep
    · rw [if_pos (beq_iff_eq.2 hc), hc, splitOn_cons_self]
    · obtain ⟨part, parts, hr, hcr⟩ := splitOn_cons_of_ne hc r
      rw [if_neg (mt beq_iff_eq.1 hc), hcr, hr, List.modifyHead_cons]

theorem not_mem_of_mem_splitOn (h : part ∈ splitOn sep cs) : sep ∉ part := by
  induction cs generalizing part with
  | nil =>
    rw [List.mem_singleton.1 h]
    exact List.not_mem_nil
  | cons d r ih =>
    by_cases hd : d = sep
    · rw [hd, splitOn_cons_self, List.mem_cons] at h
      rcases h with rfl | h
      · exact List.not_mem_nil
      · exact ih h
    · obtain ⟨first, parts, hr, hdr⟩ := splitOn_cons_of_ne hd r
      rw [hr] at ih
      rw [hdr, List.mem_cons] at h
      rcases h with rfl | h
      · rw [List.mem_cons, not_or]
        exact ⟨Ne.symm hd, ih List.mem_cons_self⟩
      · exact ih (List.mem_cons_of_mem _ h)

/-- A character stands in a part just if it stands in the text and is no separator. -/
theorem exists_part_iff (hc : c ≠ sep) : (∃ part ∈ splitOn sep cs, c ∈ part) ↔ c ∈ cs := by
  induction cs with
  | nil => simp [splitOn]
  | cons d r ih =>
    by_cases hd : d = sep
    · rw [hd, splitOn_cons_self, List.mem_cons]
      simp [ih, hc]
    · obtain ⟨first, parts, hr, hdr⟩ := splitOn_cons_of_ne hd r
      rw [hr] at ih
      rw [hdr, List.mem_cons, ← ih]
      simp [or_assoc]

/-! ## Putting together -/

theorem exists_intercalate_cons (sep head : String) (lines : List String) :
    ∃ rest, String.intercalate sep (head :: lines) = head ++ rest := by
  cases lines with
  | nil => exact ⟨"", by rw [← String.toList_inj]; simp⟩
  | cons next lines =>
    refine ⟨sep ++ String.intercalate sep (next :: lines), ?_⟩
    rw [← String.toList_inj]
    simp [List.intercalate]

/-- Parts that are put together start as the first of them. -/
theorem head?_intercalate {separator first : String} (h : first ≠ "") (rest : List String) :
    (separator.intercalate (first :: rest)).toList.head? = first.toList.head? := by
  obtain ⟨more, hmore⟩ := exists_intercalate_cons separator first rest
  obtain ⟨c, r, hc⟩ := List.exists_cons_of_ne_nil (mt String.toList_eq_nil_iff.1 h)
  rw [hmore, String.toList_append, hc]
  rfl

theorem splitString_intercalate {separator : String} {parts : List String}
    (hsep : separator.toList = [sep]) (hne : parts ≠ []) (h : ∀ part ∈ parts, sep ∉ part.toList) :
    splitString sep (separator.intercalate parts) = parts := by
  have hsplit : splitOn sep (separator.intercalate parts).toList = parts.map String.toList := by
    rw [splitOn_eq, String.toList_intercalate, hsep]
    exact List.splitOn_intercalate sep (List.forall_mem_map.2 h) (by simpa using hne)
  rw [splitString, hsplit, List.map_map]
  exact (List.map_congr_left fun part _ => String.ofList_toList).trans (List.map_id parts)

end Conformance.Text
