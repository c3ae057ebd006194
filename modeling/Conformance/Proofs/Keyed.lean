import Mathlib.Data.List.Induction
import Conformance.Keyed

/-! # What a keyed list holds

* `Keyed.keys_ofList`: the keys, each once, in the order in which they first appear.
* `Keyed.nodup_keys_ofList`, `Keyed.mem_of_mem_ofList`: no key twice, and no entry but those given.
* `Keyed.get?_ofList`: the value of a key is the last one that was put.
-/

namespace Conformance.Keyed
set_option autoImplicit false

variable {α : Type}

theorem get?_put_self (key : String) (a : α) (l : List (String × α)) :
    get? (put key a l) key = some a := by
  induction l with
  | nil => simp [put, get?]
  | cons e rest ih =>
    rw [put]
    split
    · simp [get?]
    · next hne =>
      rw [get?, List.find?_cons_of_neg (by simpa using hne)]
      exact ih

theorem get?_put_of_ne {key other : String} (h : other ≠ key) (a : α) (l : List (String × α)) :
    get? (put key a l) other = get? l other := by
  induction l with
  | nil => simp [put, get?, Ne.symm h]
  | cons e rest ih =>
    rw [put]
    split
    · next heq =>
      rw [get?, get?, List.find?_cons_of_neg (by simpa using Ne.symm h),
        List.find?_cons_of_neg (by simpa [heq] using Ne.symm h)]
    · by_cases he : e.1 = other
      · rw [get?, get?, List.find?_cons_of_pos (by simpa using he),
          List.find?_cons_of_pos (by simpa using he)]
      · rw [get?, get?, List.find?_cons_of_neg (by simpa using he),
          List.find?_cons_of_neg (by simpa using he)]
        exact ih

theorem keys_put_of_mem {key : String} {l : List (String × α)} (h : key ∈ l.map Prod.fst) (a : α) :
    (put key a l).map Prod.fst = l.map Prod.fst := by
  induction l with
  | nil => cases h
  | cons e rest ih =>
    rw [put]
    split
    · next heq => simp [heq]
    · next hne =>
      rw [List.map_cons, List.mem_cons] at h
      rw [List.map_cons, List.map_cons, ih (h.resolve_left (Ne.symm hne))]

theorem keys_put_of_not_mem {key : String} {l : List (String × α)} (h : key ∉ l.map Prod.fst)
    (a : α) : (put key a l).map Prod.fst = l.map Prod.fst ++ [key] := by
  induction l with
  | nil => rfl
  | cons e rest ih =>
    rw [List.map_cons, List.mem_cons, not_or] at h
    rw [put, if_neg (Ne.symm h.1), List.map_cons, List.map_cons, ih h.2, List.cons_append]

theorem nodup_keys_put {key : String} {l : List (String × α)} (h : (l.map Prod.fst).Nodup) (a : α) :
    ((put key a l).map Prod.fst).Nodup := by
  by_cases hkey : key ∈ l.map Prod.fst
  · rwa [keys_put_of_mem hkey]
  · rw [keys_put_of_not_mem hkey]
    have hapart : ∀ k ∈ l.map Prod.fst, k ≠ key := fun k hk heq => hkey (heq ▸ hk)
    simpa [List.nodup_append, h] using hapart

theorem mem_of_mem_put {key : String} {a : α} {l : List (String × α)} {e : String × α}
    (h : e ∈ put key a l) : e = (key, a) ∨ e ∈ l := by
  induction l with
  | nil => exact .inl (List.mem_singleton.1 h)
  | cons d rest ih =>
    rw [put] at h
    split at h
    · rcases List.mem_cons.1 h with rfl | h
      · exact .inl rfl
      · exact .inr (List.mem_cons_of_mem _ h)
    · rcases List.mem_cons.1 h with rfl | h
      · exact .inr List.mem_cons_self
      · exact (ih h).imp_right (List.mem_cons_of_mem _)

/-! ## Lists of entries -/

theorem ofList_concat (l : List (String × α)) (e : String × α) :
    ofList (l ++ [e]) = put e.1 e.2 (ofList l) := by
  rw [ofList, ofList, List.foldl_append, List.foldl_cons, List.foldl_nil]

/-- Each key once, in the order in which they first appear. -/
theorem keys_ofList (l : List (String × α)) :
    (ofList l).map Prod.fst = (l.map Prod.fst).eraseDups := by
  induction l using List.reverseRecOn with
  | nil => rfl
  | append_singleton l e ih =>
    rw [ofList_concat, List.map_append, List.eraseDups_append, ← ih]
    by_cases h : e.1 ∈ (ofList l).map Prod.fst
    · have hl : e.1 ∈ l.map Prod.fst := List.mem_eraseDups.1 (ih ▸ h)
      rw [keys_put_of_mem h]
      simp [List.removeAll, hl]
    · have hl : e.1 ∉ l.map Prod.fst := fun hl => h (ih ▸ List.mem_eraseDups.2 hl)
      rw [keys_put_of_not_mem h]
      simp [List.removeAll, hl, List.eraseDups_cons]

theorem nodup_keys_ofList (l : List (String × α)) : ((ofList l).map Prod.fst).Nodup := by
  induction l using List.reverseRecOn with
  | nil => exact List.nodup_nil
  | append_singleton l e ih =>
    rw [ofList_concat]
    exact nodup_keys_put ih e.2

/-- Every value was put. -/
theorem mem_of_mem_ofList {l : List (String × α)} {e : String × α} (h : e ∈ ofList l) : e ∈ l := by
  induction l using List.reverseRecOn with
  | nil => cases h
  | append_singleton l d ih =>
    rw [ofList_concat] at h
    rcases mem_of_mem_put h with rfl | h
    · exact List.mem_append_right _ List.mem_cons_self
    · exact List.mem_append_left _ (ih h)

/-- What is put under a key stays until the key is put again. -/
theorem get?_ofList {key : String} {a : α} (before after : List (String × α))
    (h : ∀ e ∈ after, e.1 ≠ key) : get? (ofList (before ++ (key, a) :: after)) key = some a := by
  induction after using List.reverseRecOn with
  | nil => rw [ofList_concat, get?_put_self]
  | append_singleton rest e ih =>
    rw [← List.cons_append, ← List.append_assoc, ofList_concat,
      get?_put_of_ne (Ne.symm (h e (by simp)))]
    exact ih fun d hd => h d (List.mem_append_left _ hd)

end Conformance.Keyed
