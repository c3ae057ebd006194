import Mathlib.Data.List.DropRight
import Mathlib.Data.List.Nodup
import Conformance.Workspace.Store

/-! # What a bounded store holds

A store gives up its oldest entries first, and no more of them than it has to. So it holds the newest
of all the entries that were ever added to it, as many as it can.

* `Store.bound`: how many entries a store can hold; one always fits.
* `Store.room_eq_rtake`: the entries that stay when one more is to come.
* `Store.entries_add_of_newest`: the newest entries are what is left after one more addition.
* `Store.evictions_add`: an entry more is an eviction or a longer store.
-/

namespace Conformance.Store
set_option autoImplicit false

/-- How many entries a store can hold. -/
def bound (capacity : Int) : Nat := max 1 capacity.toNat

theorem bound_pos (capacity : Int) : 0 < bound capacity := by
  unfold bound
  omega

section

variable {α : Type} (l : List α) (a : α)

theorem rtake_cons_of_le {n : Nat} (h : n ≤ l.length) : (a :: l).rtake n = l.rtake n := by
  have hlength : (a :: l).length - n = l.length - n + 1 := by
    rw [List.length_cons]
    omega
  rw [List.rtake, hlength, List.drop_succ_cons, List.rtake]

theorem rtake_eq_self_of_le {n : Nat} (h : l.length ≤ n) : l.rtake n = l := by
  rw [List.rtake, Nat.sub_eq_zero_of_le h, List.drop_zero]

theorem length_rtake (n : Nat) : (l.rtake n).length = min l.length n := by
  rw [List.rtake, List.length_drop]
  omega

/-- A list has no more entries than it has. -/
theorem rtake_min_length (n : Nat) : l.rtake (min l.length n) = l.rtake n := by
  have hlength : l.length - min l.length n = l.length - n := by omega
  rw [List.rtake, hlength, List.rtake]

theorem rtake_rtake_succ (n : Nat) : (l.rtake (n + 1)).rtake n = l.rtake n := by
  have hlength : l.length - (n + 1) + (min l.length (n + 1) - n) = l.length - n := by omega
  rw [List.rtake, length_rtake, List.rtake, List.drop_drop, hlength, List.rtake]

/-- What is cut off before an addition would have been cut off after it. -/
theorem rtake_rtake_concat (n : Nat) : (l.rtake n ++ [a]).rtake n = (l ++ [a]).rtake n := by
  cases n with
  | zero => rw [List.rtake_zero, List.rtake_zero]
  | succ n => rw [List.rtake_concat_succ, List.rtake_concat_succ, rtake_rtake_succ]

end

variable {κ ν : Type}

/-- Induction on the entries: an entry goes if those behind it already leave no more than one place. -/
theorem room_eq_rtake (capacity : Int) (entries : List (κ × ν)) :
    room capacity entries = entries.rtake (bound capacity - 1) := by
  induction entries with
  | nil => rw [room, List.rtake_nil]
  | cons e rest ih =>
    rw [room]
    split
    · next h =>
      have hle : bound capacity - 1 ≤ rest.length := by
        unfold bound
        omega
      rw [ih, rtake_cons_of_le rest e hle]
    · next h =>
      have hle : (e :: rest).length ≤ bound capacity - 1 := by
        unfold bound
        rw [List.length_cons]
        omega
      rw [rtake_eq_self_of_le _ hle]

variable {s : Store κ ν} {key : κ} {value : ν} {added : List (κ × ν)}

theorem capacity_add : (s.add key value).capacity = s.capacity := rfl

theorem entries_add :
    (s.add key value).entries = (s.entries ++ [(key, value)]).rtake (bound s.capacity) := by
  have hbound : bound s.capacity - 1 + 1 = bound s.capacity := Nat.succ_pred (bound_pos _).ne'
  have hconcat := List.rtake_concat_succ s.entries (bound s.capacity - 1) (key, value)
  rw [hbound] at hconcat
  rw [hconcat, add, room_eq_rtake]

/-- The store holds the newest of what was added to it, and so it does after one more addition. -/
theorem entries_add_of_newest (h : s.entries = added.rtake (bound s.capacity)) :
    (s.add key value).entries = (added ++ [(key, value)]).rtake (bound s.capacity) := by
  rw [entries_add, h, rtake_rtake_concat]

/-- Every addition is an entry more, except for the evictions that it causes. -/
theorem evictions_add :
    (s.add key value).entries.length + s.evictions = s.entries.length + 1 := by
  have hroom := length_room_le s.capacity s.entries
  rw [add, List.length_append, List.length_singleton, evictions]
  omega

/-- A key that the store does not hold is added as a further one. -/
theorem nodup_keys_add [DecidableEq κ] (h : s.keys.Nodup) (hkey : s.get? key = none) :
    (s.add key value).keys.Nodup := by
  have hnew : key ∉ s.keys := by
    intro hmem
    obtain ⟨e, he, hek⟩ := List.mem_map.1 hmem
    rw [get?, Option.map_eq_none_iff, List.find?_eq_none] at hkey
    exact hkey e he (by simpa using hek)
  have hall : ((s.entries ++ [(key, value)]).map Prod.fst).Nodup := by
    rw [List.map_append, List.map_singleton, List.nodup_append]
    refine ⟨h, List.nodup_singleton key, ?_⟩
    intro k hk k' hk' hkk'
    rw [List.mem_singleton] at hk'
    rw [hkk', hk'] at hk
    exact hnew hk
  rw [keys, entries_add, List.rtake]
  exact hall.sublist ((List.drop_sublist _ _).map _)

end Conformance.Store
