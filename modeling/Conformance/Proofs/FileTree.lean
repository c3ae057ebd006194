import Conformance.FileTree

/-! # Where paths lead

Following a path checks every directory on the way; resolving it by name checks none. Where both
come to an end, they come to the same location.

* `FileTree.location?_eq_of_resolved`: paths with one resolved form that can both be followed, or
  neither, lead to one location.
* `FileTree.location?_join`: from one location, the same path leads on to one location.
-/

namespace Conformance.FileTree
set_option autoImplicit false

/-- One step by name alone. -/
def stepped (location : Location) (name : String) : Location :=
  if name = ".." then location.tail else name :: location

theorem follow_append (t : FileTree) (location : Location) (front back : List String) :
    t.follow location (front ++ back) =
      (t.follow location front).bind fun l => t.follow l back := by
  induction front generalizing location with
  | nil => rfl
  | cons name front ih =>
    rw [List.cons_append, follow, follow]
    split
    · exact ih _
    · rfl

theorem follow_eq_foldl {t : FileTree} {location l : Location} {names : List String}
    (h : t.follow location names = some l) : l = names.foldl stepped location := by
  induction names generalizing location with
  | nil => exact (Option.some.inj h).symm
  | cons name rest ih =>
    rw [follow] at h
    split at h
    · exact ih h
    · cases h

theorem foldl_stepped {names : List String} (h : ".." ∉ names) (location : Location) :
    names.foldl stepped location = names.reverse ++ location := by
  induction names generalizing location with
  | nil => rfl
  | cons name rest ih =>
    rw [List.mem_cons, not_or] at h
    rw [List.foldl_cons, ih h.2, stepped, if_neg (Ne.symm h.1), List.reverse_cons, List.append_assoc,
      List.singleton_append]

/-- Where the names lead that are kept. -/
theorem foldr_stepped_keepName (absolute : Bool) (kept : List String) (name : String) :
    (Path.keepName absolute kept name).foldr (fun name location => stepped location name) [] =
      stepped (kept.foldr (fun name location => stepped location name) []) name := by
  unfold Path.keepName
  by_cases hname : name = ".."
  · subst hname
    cases kept with
    | nil => cases absolute <;> rfl
    | cons last kept =>
      by_cases hlast : last = ".."
      · simp [hlast]
      · simp [hlast, stepped]
  · simp [hname]

/-- Taking away each name before a `..` changes nothing about where the steps lead, be it that a
leading `..` is kept or dropped: there is nothing above the root. -/
theorem foldl_stepped_normalNames (absolute : Bool) (names : List String) :
    (Path.normalNames absolute names).foldl stepped [] = names.foldl stepped [] := by
  rw [Path.normalNames, List.foldl_reverse]
  suffices h : ∀ kept : List String,
      (names.foldl (Path.keepName absolute) kept).foldr
        (fun name location => stepped location name) [] =
      names.foldl stepped (kept.foldr (fun name location => stepped location name) []) from h []
  induction names with
  | nil => exact fun _ => rfl
  | cons name rest ih =>
    intro kept
    rw [List.foldl_cons, List.foldl_cons, ih, foldr_stepped_keepName]

theorem location?_eq_foldl {t : FileTree} {p : Path} {l : Location} (h : t.location? p = some l) :
    l = (t.resolved p).names.foldl stepped [] := by
  rw [follow_eq_foldl h]
  exact (foldl_stepped_normalNames _ _).symm

theorem location?_eq_of_resolved {t : FileTree} {p q : Path} (h : t.resolved p = t.resolved q)
    (hs : (t.location? p).isSome = (t.location? q).isSome) : t.location? p = t.location? q := by
  cases hp : t.location? p with
  | none =>
    rw [hp] at hs
    exact (Option.isNone_iff_eq_none.1 (by simpa using hs.symm)).symm
  | some l =>
    rw [hp] at hs
    obtain ⟨l', hq⟩ := Option.isSome_iff_exists.1 hs.symm
    rw [hq, location?_eq_foldl hp, location?_eq_foldl hq, h]

/-! ## Going on from a location -/

theorem names_absolute_join {t : FileTree} {p r : Path} (hr : ¬ r.isAbsolute = true) :
    (t.absolute (p.join r)).names = (t.absolute p).names ++ r.names := by
  rw [absolute, absolute, Path.join, Path.join, Path.join, if_neg hr]
  split
  · next habs =>
    have : p.isAbsolute = true := habs
    rw [if_pos this]
  · next habs =>
    have : ¬p.isAbsolute = true := habs
    rw [if_neg this, List.append_assoc]

theorem location?_join {t : FileTree} {p q : Path} (h : t.location? p = t.location? q)
    (r : Path) : t.location? (p.join r) = t.location? (q.join r) := by
  by_cases hr : r.isAbsolute = true
  · rw [Path.join, Path.join, if_pos hr, if_pos hr]
  · unfold location? at h ⊢
    rw [names_absolute_join hr, names_absolute_join hr, follow_append, follow_append, h]

variable {t : FileTree} {p q : Path}

theorem entry?_child (h : t.location? p = t.location? q) (s : String) :
    t.entry? (p.child s) = t.entry? (q.child s) := by
  unfold entry? Path.child
  rw [location?_join h]

theorem exists?_child (h : t.location? p = t.location? q) (s : String) :
    t.exists? (p.child s) = t.exists? (q.child s) := by
  rw [exists?, exists?, entry?_child h]

theorem text?_child (h : t.location? p = t.location? q) (s : String) :
    t.text? (p.child s) = t.text? (q.child s) := by
  rw [text?, text?, entry?_child h]

end Conformance.FileTree
