import Conformance.Path
import Conformance.Proofs.FileTree
import Conformance.Proofs.Text.Parts

/-! # Paths as lists of names

A path that is written as names with slashes between them is read as these names, and its normal form is
worked out name by name.

* `Path.IsPlain`: names that lead down.
* `Path.below`, `Path.child_intercalate`: a path extended by names, and by a text of names.
* `Path.normal_below`: names without `..` are normal behind a normal path.
* `Path.normalNames_true`: in an absolute path `..` takes a name away wherever there is one.
-/

namespace Conformance
open Text
set_option autoImplicit false

namespace Path

/-! ## Extended paths -/

/-- The path with further names. -/
def below (p : Path) (names : List String) : Path := { p with names := p.names ++ names }

/-- A name that is kept when a path is read. -/
def IsKept (name : String) : Prop := name ≠ "" ∧ name ≠ "." ∧ '/' ∉ name.toList

/-- A name that is kept and leads down. -/
def IsPlain (name : String) : Prop := IsKept name ∧ name ≠ ".."

/-- What may stand between the dots of a dotted name. It may be empty. -/
def IsPart (s : String) : Prop := '.' ∉ s.toList ∧ '/' ∉ s.toList

/-- What makes a plain name of every text that it stands behind. -/
def IsExtension (s : String) : Prop := '/' ∉ s.toList ∧ 3 ≤ s.length

section

variable (s : String)

instance : Decidable (IsKept s) := inferInstanceAs (Decidable (_ ∧ _ ∧ _))

instance : Decidable (IsPlain s) := inferInstanceAs (Decidable (_ ∧ _))

instance : Decidable (IsPart s) := inferInstanceAs (Decidable (_ ∧ _))

instance : Decidable (IsExtension s) := inferInstanceAs (Decidable (_ ∧ _))

end

theorem IsPart.isPlain {s : String} (h : IsPart s) (hs : s ≠ "") : IsPlain s := by
  have hne {t : String} (ht : '.' ∈ t.toList) : s ≠ t := by
    rintro rfl
    exact h.1 ht
  exact ⟨⟨hs, hne (by decide), h.2⟩, hne (by decide)⟩

variable {p : Path} {names : List String}

@[simp] theorem below_nil (p : Path) : p.below [] = p := by
  rw [below, List.append_nil]

@[simp] theorem below_below (p : Path) (names more : List String) :
    (p.below names).below more = p.below (names ++ more) := by
  rw [below, below, below, List.append_assoc]

theorem names_ofString_of_splitString {s : String} (hsplit : splitString '/' s = names)
    (h : ∀ name ∈ names, IsKept name) : (ofString s).names = names := by
  rw [ofString, hsplit, List.filter_eq_self]
  intro name hname
  obtain ⟨hempty, hdot, -⟩ := h name hname
  simp [hempty, hdot]

theorem anchor_ofString_of_head {s : String} (h : s.toList.head? ≠ some '/') :
    (ofString s).anchor = .relative := by
  rw [ofString]
  dsimp only
  cases hs : s.toList with
  | nil => rfl
  | cons c r =>
    rw [hs] at h
    have hc : c ≠ '/' := by simpa using h
    unfold Anchor.ofChars
    split <;> simp_all

/-- Names with slashes between them are read as these names. -/
theorem ofString_intercalate (h : ∀ name ∈ names, IsKept name) (hne : names ≠ []) :
    ofString ("/".intercalate names) = ⟨.relative, names⟩ := by
  have hsplit : splitString '/' ("/".intercalate names) = names :=
    splitString_intercalate rfl hne fun name hname => (h name hname).2.2
  have hnames := names_ofString_of_splitString hsplit h
  have hanchor : (ofString ("/".intercalate names)).anchor = .relative := by
    refine anchor_ofString_of_head ?_
    obtain ⟨first, rest, rfl⟩ := List.exists_cons_of_ne_nil hne
    obtain ⟨hempty, -, hslash⟩ := h first List.mem_cons_self
    rw [head?_intercalate hempty]
    exact fun hhead => hslash (List.mem_of_mem_head? hhead)
  show Path.mk (ofString ("/".intercalate names)).anchor (ofString ("/".intercalate names)).names = _
  rw [hanchor, hnames]

/-- A path is extended by names as by their text. -/
theorem child_intercalate (h : ∀ name ∈ names, IsKept name) (hne : names ≠ []) (p : Path) :
    p.child ("/".intercalate names) = p.below names := by
  rw [child, ofString_intercalate h hne]
  rfl

theorem child_name {name : String} (h : IsKept name) (p : Path) : p.child name = p.below [name] := by
  have hchild := child_intercalate (fun other ho => List.mem_singleton.1 ho ▸ h) (List.cons_ne_nil _ _) p
  rwa [String.intercalate_singleton] at hchild

theorem IsExtension.isPlain {name extension : String} (h : IsExtension extension)
    (hname : '/' ∉ name.toList) : IsPlain (name ++ extension) := by
  have hlong : 3 ≤ (name ++ extension).length := by
    rw [String.length_append]
    exact Nat.le_add_left_of_le h.2
  have hne {s : String} (hs : s.length < 3) : name ++ extension ≠ s := by
    rintro rfl
    omega
  refine ⟨⟨hne (by decide), hne (by decide), ?_⟩, hne (by decide)⟩
  rw [String.toList_append, List.mem_append, not_or]
  exact ⟨hname, h.1⟩

@[simp] theorem child_empty (p : Path) : p.child "" = p := below_nil p

/-! ## Normal forms -/

theorem foldl_keepName {absolute : Bool} {kept : List String} (h : ".." ∉ names) :
    names.foldl (keepName absolute) kept = names.reverse ++ kept := by
  induction names generalizing kept with
  | nil => rfl
  | cons name rest ih =>
    rw [List.mem_cons, not_or] at h
    have hstep : keepName absolute kept name = name :: kept := by
      unfold keepName
      rw [if_pos (by simpa using Ne.symm h.1)]
    rw [List.foldl_cons, hstep, ih h.2, List.reverse_cons, List.append_assoc, List.singleton_append]

theorem normalNames_append {absolute : Bool} {front : List String} (h : ".." ∉ names) :
    normalNames absolute (front ++ names) = normalNames absolute front ++ names := by
  rw [normalNames, List.foldl_append, foldl_keepName h, List.reverse_append, List.reverse_reverse]
  rfl

/-- Names without `..` are normal behind a normal path. -/
theorem normal_below (h : ".." ∉ names) : (p.below names).normal = p.normal.below names :=
  congrArg (Path.mk p.anchor) (normalNames_append h)

theorem below_left_inj {q : Path} (names : List String) : p.below names = q.below names ↔ p = q := by
  cases p
  cases q
  simp [below]

open FileTree in
/-- What is kept of an absolute path has no `..`, so that each of them takes a name away if there is one. -/
theorem foldl_keepName_true {kept : List String} (h : ".." ∉ kept) :
    names.foldl (keepName true) kept = names.foldl stepped kept := by
  induction names generalizing kept with
  | nil => rfl
  | cons name rest ih =>
    have hstep : keepName true kept name = stepped kept name := by
      unfold keepName stepped
      by_cases hname : name = ".."
      · cases kept with
        | nil => simp [hname]
        | cons last kept =>
          rw [List.mem_cons, not_or] at h
          simp [hname, Ne.symm h.1]
      · simp [hname]
    have hkept : ".." ∉ stepped kept name := by
      unfold stepped
      split
      · exact fun hmem => h (List.mem_of_mem_tail hmem)
      · next hname =>
        rw [List.mem_cons, not_or]
        exact ⟨Ne.symm hname, h⟩
    rw [List.foldl_cons, List.foldl_cons, hstep, ih hkept]

theorem normalNames_true (names : List String) :
    normalNames true names = (names.foldl FileTree.stepped []).reverse := by
  rw [normalNames, foldl_keepName_true List.not_mem_nil]

end Path

end Conformance
