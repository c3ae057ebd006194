/-! # Sets of names

A set of names is kept as an ascending list without repetition, so that equal sets are equal values
and are written in one way.

* `Names.insert`, `Names.ofList`: building; `mem_insert`, `mem_ofList` say what they hold.
-/

namespace Conformance
set_option autoImplicit false

structure Names where
  toList : List String
  ascending : toList.Pairwise (· < ·)

namespace Names

instance : Membership String Names := ⟨fun s n => n ∈ s.toList⟩

theorem mem_def {n : String} {s : Names} : n ∈ s ↔ n ∈ s.toList := Iff.rfl

instance (n : String) (s : Names) : Decidable (n ∈ s) := inferInstanceAs (Decidable (n ∈ s.toList))

def contains (s : Names) (n : String) : Bool := s.toList.contains n

def empty : Names := ⟨[], .nil⟩

/-- Puts the name before the first greater one, unless it is there. -/
def insertName (n : String) : List String → List String
  | [] => [n]
  | m :: r => if n < m then n :: m :: r else if n = m then m :: r else m :: insertName n r

theorem mem_insertName {n x : String} {l : List String} :
    x ∈ insertName n l ↔ x = n ∨ x ∈ l := by
  induction l with
  | nil => simp [insertName]
  | cons m r ih =>
    unfold insertName
    split
    · simp
    · split
      · next h => subst h; simp
      · simp only [List.mem_cons, ih]
        constructor
        · rintro (h | h | h) <;> simp [h]
        · rintro (h | h | h) <;> simp [h]

theorem insertName_ascending {n : String} {l : List String} (h : l.Pairwise (· < ·)) :
    (insertName n l).Pairwise (· < ·) := by
  induction l with
  | nil => simp [insertName]
  | cons m r ih =>
    have hm := List.pairwise_cons.1 h
    unfold insertName
    split
    · next hlt =>
      refine List.pairwise_cons.2 ⟨fun x hx => ?_, h⟩
      rcases List.mem_cons.1 hx with rfl | hx
      · exact hlt
      · exact String.lt_trans hlt (hm.1 x hx)
    · split
      · exact h
      · next hlt hne =>
        refine List.pairwise_cons.2 ⟨fun x hx => ?_, ih hm.2⟩
        rcases mem_insertName.1 hx with rfl | hx
        · have hle : m ≤ x := String.not_lt.1 hlt
          rcases Decidable.em (m < x) with h' | h'
          · exact h'
          · exact absurd (String.le_antisymm (String.not_lt.1 h') hle) hne
        · exact hm.1 x hx

def insert (n : String) (s : Names) : Names :=
  ⟨insertName n s.toList, insertName_ascending s.ascending⟩

def ofList (l : List String) : Names := l.foldr insert empty

def union (s t : Names) : Names := s.toList.foldr insert t

@[simp] theorem mem_insert {n x : String} {s : Names} : x ∈ s.insert n ↔ x = n ∨ x ∈ s :=
  mem_insertName

@[simp] theorem not_mem_empty {x : String} : ¬ x ∈ empty := by
  intro h; exact List.not_mem_nil h

@[simp] theorem mem_ofList {x : String} {l : List String} : x ∈ ofList l ↔ x ∈ l := by
  induction l with
  | nil => simp [ofList]
  | cons a r ih =>
    rw [ofList, List.foldr_cons, mem_insert, List.mem_cons]
    exact or_congr_right ih

end Names

end Conformance
