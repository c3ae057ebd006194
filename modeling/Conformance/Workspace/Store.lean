/-! # Bounded stores

Values by key, oldest first. A store at its capacity gives up its oldest entries for a new one.

* `Store.get?`: the value of a key.
* `Store.add`: the store with a new entry.
* `Store.evictions`: how many entries `add` gives up.
-/

namespace Conformance
set_option autoImplicit false

variable {κ ν : Type}

/-- A store. With a capacity below one it still holds its newest entry. -/
structure Store (κ ν : Type) where
  capacity : Int
  entries : List (κ × ν) := []

namespace Store

def get? [DecidableEq κ] (s : Store κ ν) (key : κ) : Option ν := (s.entries.find? fun e => e.1 = key).map Prod.snd

def keys (s : Store κ ν) : List κ := s.entries.map Prod.fst

/-- The newest entries, fewer than the capacity, so that one more fits. -/
def room (capacity : Int) : List (κ × ν) → List (κ × ν)
  | [] => []
  | e :: rest => if capacity ≤ rest.length + 1 then room capacity rest else e :: rest

/-- How many entries have to go for one more to fit. -/
def evictions (s : Store κ ν) : Nat := s.entries.length - (room s.capacity s.entries).length

/-- The store with an entry for a key that it does not hold. -/
def add (s : Store κ ν) (key : κ) (value : ν) : Store κ ν :=
  { s with entries := room s.capacity s.entries ++ [(key, value)] }

def clear (s : Store κ ν) : Store κ ν := { s with entries := [] }

theorem length_room_le (capacity : Int) (entries : List (κ × ν)) :
    (room capacity entries).length ≤ entries.length := by
  induction entries with
  | nil => simp [room]
  | cons e rest ih => rw [room]; split <;> simp <;> omega

end Store

end Conformance
