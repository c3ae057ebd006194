import Conformance.Proofs.Text.Parts

/-! # Dotted paths

A dotted path is what a log sink is named by: `console`, `sys.stdout`.

* `IsDottedPath`: the parts between the dots are names.
* `IsPathTail`: what may follow the first character of a path; `isPathTail_cons_dot` and
  `isPathTail_cons` take it apart character by character.
* `mem_splitOn_of_between`: a name with dots around it is a part.
* `IsDottedPath.behind_dot`: a path behind a name and a dot makes a longer path.
-/

namespace Conformance.Text
set_option autoImplicit false

theorem isNameChar_dot : isNameChar '.' = false := by decide

theorem isNameChar_eq_false_of_isSpace {c : Char} (h : isSpace c = true) : isNameChar c = false := by
  have hspaces : ∀ r ∈ [(9, 13), (28, 32), (0x85, 0x85), (0xa0, 0xa0), (0x1680, 0x1680),
      (0x2000, 0x200a), (0x2028, 0x2029), (0x202f, 0x202f), (0x205f, 0x205f), (0x3000, 0x3000)],
      ∀ n ∈ List.range' r.1 (r.2 + 1 - r.1), isNameChar (Char.ofNat n) = false := by
    decide +kernel
  obtain ⟨r, hr, hc⟩ := List.any_eq_true.1 h
  rw [Bool.and_eq_true, decide_eq_true_eq, decide_eq_true_eq] at hc
  have hn : c.toNat ∈ List.range' r.1 (r.2 + 1 - r.1) := by
    rw [List.mem_range'_1]
    omega
  have hname := hspaces r hr c.toNat hn
  rwa [Char.ofNat_toNat] at hname

/-! ## Paths -/

/-- The parts between the dots are runs of name characters, none of them empty. -/
def IsDottedPath (cs : List Char) : Prop :=
  ∀ part ∈ splitOn '.' cs, part ≠ [] ∧ ∀ c ∈ part, isNameChar c = true

instance (cs : List Char) : Decidable (IsDottedPath cs) :=
  decidable_of_iff ((splitOn '.' cs).all fun part => !part.isEmpty && part.all isNameChar)
    (by simp [IsDottedPath])

example : IsDottedPath "process.stdout".toList ∧ ¬ IsDottedPath "process..stdout".toList := by
  decide

/-- What may follow a name character of a path: the first part may be empty. -/
def IsPathTail (cs : List Char) : Prop :=
  ∃ part parts, splitOn '.' cs = part :: parts ∧ (∀ c ∈ part, isNameChar c = true) ∧
    ∀ part ∈ parts, part ≠ [] ∧ ∀ c ∈ part, isNameChar c = true

variable {c : Char} {cs rest : List Char}

/-- A name between dots, or at an end of the path, is one of its parts. -/
theorem mem_splitOn_of_between {name front back : List Char} (hname : '.' ∉ name)
    (hfront : front = [] ∨ ∃ before, front = before ++ ['.'])
    (hback : back = [] ∨ ∃ after, back = '.' :: after) :
    name ∈ splitOn '.' (front ++ name ++ back) := by
  have hhead : name ∈ splitOn '.' (name ++ back) := by
    rcases hback with rfl | ⟨after, rfl⟩
    · rw [List.append_nil, splitOn_eq_singleton hname]
      exact List.mem_singleton_self name
    · rw [splitOn_append_sep, splitOn_eq_singleton hname]
      exact List.mem_cons_self
  rw [List.append_assoc]
  rcases hfront with rfl | ⟨before, rfl⟩
  · exact hhead
  · rw [List.append_assoc, List.singleton_append, splitOn_append_sep]
    exact List.mem_append_right _ hhead

theorem IsDottedPath.tail (h : IsDottedPath cs) : IsPathTail cs := by
  obtain ⟨part, parts, hsplit⟩ := List.exists_cons_of_ne_nil (splitOn_ne_nil '.' cs)
  unfold IsDottedPath at h
  rw [hsplit] at h
  exact ⟨part, parts, hsplit, (h part List.mem_cons_self).2,
    fun p hp => h p (List.mem_cons_of_mem _ hp)⟩

theorem isPathTail_cons_dot : IsPathTail ('.' :: cs) ↔ IsDottedPath cs := by
  unfold IsPathTail IsDottedPath
  rw [splitOn, if_pos rfl]
  constructor
  · rintro ⟨part, parts, hsplit, -, hparts⟩
    obtain ⟨rfl, rfl⟩ := List.cons.inj hsplit
    exact hparts
  · exact fun h => ⟨[], _, rfl, by simp, h⟩

theorem isPathTail_cons (hc : c ≠ '.') :
    IsPathTail (c :: cs) ↔ isNameChar c = true ∧ IsPathTail cs := by
  obtain ⟨part, parts, hsplit, hcons⟩ := splitOn_cons_of_ne hc cs
  unfold IsPathTail
  rw [hsplit, hcons]
  constructor
  · rintro ⟨part', parts', heq, hpart, hparts⟩
    obtain ⟨rfl, rfl⟩ := List.cons.inj heq
    rw [List.forall_mem_cons] at hpart
    exact ⟨hpart.1, part, parts, rfl, hpart.2, hparts⟩
  · rintro ⟨hname, part', parts', heq, hpart, hparts⟩
    obtain ⟨rfl, rfl⟩ := List.cons.inj heq
    exact ⟨c :: part, parts, rfl, List.forall_mem_cons.2 ⟨hname, hpart⟩, hparts⟩

theorem IsPathTail.isNameChar_or_dot (h : IsPathTail cs) :
    ∀ c ∈ cs, isNameChar c = true ∨ c = '.' := by
  induction cs with
  | nil => simp
  | cons c r ih =>
    rw [List.forall_mem_cons]
    by_cases hc : c = '.'
    · subst hc
      rw [isPathTail_cons_dot] at h
      exact ⟨.inr rfl, ih h.tail⟩
    · rw [isPathTail_cons hc] at h
      exact ⟨.inl h.1, ih h.2⟩

theorem IsDottedPath.eq_dot (h : IsDottedPath cs) (hc : c ∈ cs) (hname : isNameChar c = false) :
    c = '.' := by
  refine (h.tail.isNameChar_or_dot c hc).resolve_left ?_
  rw [hname]
  exact Bool.false_ne_true

theorem IsDottedPath.opening_not_mem (h : IsDottedPath cs) : '(' ∉ cs := by
  intro hmem
  have hopening := h.tail.isNameChar_or_dot _ hmem
  revert hopening
  decide

/-- A path begins with a name character. -/
theorem IsDottedPath.exists_cons (h : IsDottedPath cs) :
    ∃ c r, cs = c :: r ∧ isNameChar c = true := by
  cases cs with
  | nil => exact absurd rfl (h [] (by simp [splitOn])).1
  | cons c r =>
    refine ⟨c, r, rfl, ?_⟩
    by_cases hc : c = '.'
    · subst hc
      exact absurd rfl (h [] (by rw [splitOn, if_pos rfl]; exact List.mem_cons_self)).1
    · exact ((isPathTail_cons hc).1 h.tail).1

/-- A path behind a name and a dot makes a longer path. -/
theorem IsDottedPath.behind_dot (h : IsDottedPath cs) (name : List Char) (hname : name ≠ [])
    (hchars : ∀ c ∈ name, isNameChar c = true) : IsDottedPath (name ++ '.' :: cs) := by
  have hdot : '.' ∉ name := fun hmem => absurd (isNameChar_dot.symm.trans (hchars _ hmem)) (by decide)
  intro part hpart
  rw [splitOn_append_sep, splitOn_eq_singleton hdot, List.singleton_append, List.mem_cons] at hpart
  rcases hpart with rfl | hpart
  · exact ⟨hname, hchars⟩
  · exact h part hpart

theorem headIs_append (h : IsDottedPath cs) : headIs isNameChar (cs ++ rest) = true := by
  obtain ⟨c, r, rfl, hc⟩ := h.exists_cons
  exact hc

end Conformance.Text
