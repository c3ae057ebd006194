import Conformance.Text.Trim

/-! # Last segments

* `dot_not_mem_lastSegment`: the last segment of a path has no dot.
* `EndsIn`: a path ends in a name of one or several segments.
* `lastSegment_extend`: a path that is extended by a key ends as the key does.
* `mem_path_iff`: a name is a path or its last segment just if it is that segment.
-/

namespace Conformance.Text
set_option autoImplicit false

theorem dot_not_mem_lastSegmentChars (cs : List Char) : '.' ∉ lastSegmentChars cs := by
  induction cs with
  | nil => simp [lastSegmentChars]
  | cons c r ih =>
    rw [lastSegmentChars]
    split
    · exact ih
    · next hr =>
      have hr : '.' ∉ r := by simpa using hr
      split
      · exact hr
      · next hc =>
        rw [List.mem_cons, not_or]
        exact ⟨fun h => hc h.symm, hr⟩

theorem lastSegmentChars_eq_self {cs : List Char} (h : '.' ∉ cs) : lastSegmentChars cs = cs := by
  cases cs with
  | nil => rfl
  | cons c r =>
    rw [List.mem_cons, not_or] at h
    rw [lastSegmentChars, if_neg (by simpa using h.2), if_neg (Ne.symm h.1)]

theorem lastSegmentChars_append_dot (base key : List Char) :
    lastSegmentChars (base ++ '.' :: key) = lastSegmentChars key := by
  induction base with
  | nil =>
    rw [List.nil_append, lastSegmentChars]
    split
    · rfl
    · next h => rw [if_pos rfl, lastSegmentChars_eq_self (by simpa using h)]
  | cons c base ih =>
    rw [List.cons_append, lastSegmentChars, if_pos (by simp), ih]

/-- The path is the name, or further segments stand in front of the name. -/
def EndsIn (path name : List Char) : Prop := path = name ∨ ∃ front, path = front ++ '.' :: name

theorem endsIn_lastSegmentChars (cs : List Char) : EndsIn cs (lastSegmentChars cs) := by
  induction cs with
  | nil => exact .inl rfl
  | cons c r ih =>
    rw [lastSegmentChars]
    split
    · next hr =>
      rcases ih with hlast | ⟨front, hlast⟩
      · have hdot : '.' ∉ r := hlast ▸ dot_not_mem_lastSegmentChars r
        exact absurd (by simpa using hr) hdot
      · exact .inr ⟨c :: front, by rw [List.cons_append, ← hlast]⟩
    · split
      · next hc => exact .inr ⟨[], by rw [hc, List.nil_append]⟩
      · exact .inl rfl

/-- A path ends in one name without dots. -/
theorem EndsIn.eq_lastSegmentChars {path name : List Char} (h : EndsIn path name) (hname : '.' ∉ name) :
    name = lastSegmentChars path := by
  rcases h with rfl | ⟨front, rfl⟩
  · exact (lastSegmentChars_eq_self hname).symm
  · rw [lastSegmentChars_append_dot, lastSegmentChars_eq_self hname]

/-! ## Texts -/

theorem dot_not_mem_lastSegment (path : String) : '.' ∉ (lastSegment path).toList := by
  rw [lastSegment, String.toList_ofList]
  exact dot_not_mem_lastSegmentChars _

theorem lastSegment_eq_self {name : String} (h : '.' ∉ name.toList) : lastSegment name = name := by
  rw [lastSegment, lastSegmentChars_eq_self h, String.ofList_toList]

theorem toList_extend (base key : String) :
    (base ++ "." ++ key).toList = base.toList ++ '.' :: key.toList := by
  rw [String.toList_append, String.toList_append, List.append_assoc]
  rfl

theorem lastSegment_extend (base key : String) :
    lastSegment (base ++ "." ++ key) = lastSegment key := by
  rw [lastSegment, toList_extend, lastSegmentChars_append_dot, lastSegment]

/-- A name without a dot is no path of several segments. -/
theorem ne_extend {name : String} (h : '.' ∉ name.toList) (base key : String) :
    name ≠ base ++ "." ++ key := by
  rintro rfl
  rw [toList_extend] at h
  simp at h

/-- A path of several segments stands for a name by its last segment alone. -/
theorem mem_path_iff {name : String} (h : '.' ∉ name.toList) (base key : String) :
    name ∈ [base ++ "." ++ key, lastSegment (base ++ "." ++ key)] ↔
      lastSegment (base ++ "." ++ key) = name := by
  simp only [List.mem_cons, List.not_mem_nil, or_false]
  constructor
  · rintro (hpath | hlast)
    · exact absurd hpath (ne_extend h base key)
    · exact hlast.symm
  · exact fun hlast => .inr hlast.symm

end Conformance.Text
