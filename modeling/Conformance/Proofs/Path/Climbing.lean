import Mathlib.Data.List.DropRight
import Conformance.Path.Candidates
import Conformance.Proofs.Path

/-! # Climbing out of a directory

The dots of a module import climb by leaving out the last names of the directory that the import is
relative to. Names with slashes climb by `..`, and so does a script import. The two ways lead to one
directory as long as the names that are left out are there and none of them is `..`.

* `ClimbsByName`: where the two ways agree.
* `normal_climb_iff`: they agree nowhere else.
* `moduleCandidates_eq`: the files that an import of a module by its name may mean.
* `importCandidates_climb_iff`: these files against the names with slashes.
-/

namespace Conformance.Path
open FileTree Text
set_option autoImplicit false

variable {p : Path} {n : Nat} {absolute : Bool} {front back kept names : List String}

/-- The way out of a directory and of those above it. -/
def ups (n : Nat) : List String := List.replicate n ".."

theorem climb_eq (n : Nat) (p : Path) : climb n p = { p with names := p.names.rdrop n } := by
  induction n generalizing p with
  | zero => rw [climb, List.rdrop_zero]
  | succ n ih =>
    have hdrop : p.names.dropLast.rdrop n = p.names.rdrop (n + 1) := by
      rw [List.dropLast_eq_take, ← List.rdrop, List.rdrop_add, Nat.add_comm]
    rw [climb, ih, parent, hdrop]

/-! ## Taking back what was gone down -/

theorem foldl_keepName_ups (h : ".." ∉ names) :
    (ups names.length).foldl (keepName absolute) (names ++ kept) = kept := by
  induction names with
  | nil => rfl
  | cons name rest ih =>
    rw [List.mem_cons, not_or] at h
    have hstep : keepName absolute (name :: rest ++ kept) ".." = rest ++ kept := by
      simp [keepName, Ne.symm h.1]
    rw [List.length_cons, ups, List.replicate_succ, List.foldl_cons, hstep]
    exact ih h.2

/-- As many `..` as there are names lead back over the names. -/
theorem normalNames_ups (absolute : Bool) (front : List String) (h : ".." ∉ back) :
    normalNames absolute (front ++ (back ++ ups back.length)) = normalNames absolute front := by
  have hback : ".." ∉ back.reverse := by rwa [List.mem_reverse]
  rw [normalNames, List.foldl_append, List.foldl_append, foldl_keepName h, ← List.length_reverse,
    foldl_keepName_ups hback]
  rfl

/-! ## Relative paths -/

/-- How many steps down the names lead, each `..` being a step up. -/
def height (names : List String) : Int := names.length - 2 * names.count ".."

theorem height_append (names more : List String) :
    height (names ++ more) = height names + height more := by
  rw [height, height, height, List.length_append, List.count_append]
  omega

theorem height_reverse (names : List String) : height names.reverse = height names := by
  rw [height, height, List.length_reverse, List.count_reverse]

theorem height_ups (n : Nat) : height (ups n) = -n := by
  rw [height, ups, List.length_replicate, List.count_replicate_self]
  omega

/-- In a relative path no step is lost: a `..` takes a name away or is kept. -/
theorem height_keepName (kept : List String) (name : String) :
    height (keepName false kept name) = height [name] + height kept := by
  unfold keepName
  by_cases hname : name = ".."
  · cases kept with
    | nil => simp [hname, height]
    | cons last kept =>
      by_cases hlast : last = ".."
      · simp [hname, hlast, ← height_append]
      · simp [hname, hlast, height]
        omega
  · simp [hname, ← height_append]

theorem height_foldl_keepName (kept names : List String) :
    height (names.foldl (keepName false) kept) = height names + height kept := by
  induction names generalizing kept with
  | nil => exact (Int.zero_add _).symm
  | cons name rest ih =>
    rw [List.foldl_cons, ih, height_keepName, ← Int.add_assoc, Int.add_comm (height rest),
      ← height_append, List.singleton_append]

theorem height_normalNames (names : List String) :
    height (normalNames false names) = height names := by
  rw [normalNames, height_reverse, height_foldl_keepName]
  exact Int.add_zero _

theorem normalNames_false_iff (hback : back.length ≤ n) :
    normalNames false front = normalNames false (front ++ (back ++ ups n)) ↔
      back.length = n ∧ ".." ∉ back := by
  constructor
  · intro h
    have hheight := congrArg height h
    rw [height_normalNames, height_normalNames, height_append, height_append, height_ups] at hheight
    have hcount : height back = back.length - 2 * back.count ".." := rfl
    refine ⟨by omega, fun hmem => ?_⟩
    have hpos := List.count_pos_iff.2 hmem
    omega
  · rintro ⟨rfl, hdots⟩
    exact (normalNames_ups false front hdots).symm

/-! ## Absolute paths -/

theorem foldl_stepped_ups (l : Location) (n : Nat) : (ups n).foldl stepped l = l.drop n := by
  induction n generalizing l with
  | zero => rfl
  | succ n ih =>
    rw [ups, List.replicate_succ, List.foldl_cons, stepped, if_pos rfl, ← ups, ih, List.drop_tail]

/-- At most, the steps up all come first. -/
theorem length_foldl_stepped_le (l : Location) (names : List String) :
    (names.foldl stepped l).length ≤
      (l.length - names.count "..") + (names.length - names.count "..") := by
  induction names generalizing l with
  | nil => exact Nat.le_refl _
  | cons name rest ih =>
    have hstep := ih (stepped l name)
    have hcount : rest.count ".." ≤ rest.length := List.count_le_length
    by_cases hname : name = ".."
    · subst hname
      rw [stepped, if_pos rfl, List.length_tail] at hstep
      rw [List.foldl_cons, stepped, if_pos rfl, List.count_cons_self, List.length_cons]
      omega
    · rw [stepped, if_neg hname, List.length_cons] at hstep
      rw [List.foldl_cons, stepped, if_neg hname, List.count_cons_of_ne hname, List.length_cons]
      omega

theorem normalNames_true_append_ups (front back : List String) (n : Nat) :
    normalNames true (front ++ (back ++ ups n)) =
      ((back.foldl stepped (front.foldl stepped [])).drop n).reverse := by
  rw [normalNames_true, List.foldl_append, List.foldl_append, foldl_stepped_ups]

theorem normalNames_true_iff (hback : back.length ≤ n) (hfront : back.length < n → front = []) :
    normalNames true front = normalNames true (front ++ (back ++ ups n)) ↔
      back.length = n ∧ ".." ∉ back ∨ normalNames true front = [] := by
  have hle := length_foldl_stepped_le (front.foldl stepped []) back
  constructor
  · intro h
    rw [normalNames_true_append_ups, normalNames_true, List.reverse_inj] at h
    rw [normalNames_true, List.reverse_eq_nil_iff]
    by_cases hdots : ".." ∈ back
    · -- The names lead down by fewer steps than lead up after them, so that something of what is in
      -- front would be lost.
      have hpos := List.count_pos_iff.2 hdots
      have hlength := congrArg List.length h
      rw [List.length_drop] at hlength
      exact .inr (List.length_eq_zero_iff.1 (by omega))
    · rcases Nat.lt_or_eq_of_le hback with hlt | heq
      · rw [hfront hlt]
        exact .inr rfl
      · exact .inl ⟨heq, hdots⟩
  · rintro (⟨rfl, hdots⟩ | hnil)
    · exact (normalNames_ups true front hdots).symm
    · rw [normalNames_true, List.reverse_eq_nil_iff] at hnil
      rw [hnil, List.length_nil] at hle
      have hshort : (back.foldl stepped []).length ≤ n := by omega
      rw [normalNames_true_append_ups, normalNames_true, hnil, List.drop_eq_nil_of_le hshort]

/-! ## Climbing -/

/-- Leaving out the last names leads where `..` does: the names are there and none of them is `..`, or
there is nothing above. -/
def ClimbsByName (p : Path) (n : Nat) : Prop :=
  (n ≤ p.names.length ∧ ".." ∉ p.names.rtake n) ∨
    (p.isAbsolute = true ∧ (climb n p).normal.names = [])

instance (p : Path) (n : Nat) : Decidable (ClimbsByName p n) := inferInstanceAs (Decidable (_ ∨ _))

theorem normal_climb_iff (p : Path) (n : Nat) :
    (climb n p).normal = (p.below (ups n)).normal ↔ ClimbsByName p n := by
  have hnames : p.names = p.names.rdrop n ++ p.names.rtake n := (List.take_append_drop _ _).symm
  have hlength : (p.names.rtake n).length = min p.names.length n := by
    rw [List.rtake, List.length_drop]
    omega
  have hthere : (p.names.rtake n).length = n ↔ n ≤ p.names.length := by omega
  have hclimb : (climb n p).normal = (p.below (ups n)).normal ↔
      normalNames p.isAbsolute (p.names.rdrop n) =
        normalNames p.isAbsolute (p.names.rdrop n ++ (p.names.rtake n ++ ups n)) := by
    rw [← List.append_assoc, ← hnames, climb_eq]
    exact ⟨fun h => (Path.mk.inj h).2, congrArg (Path.mk p.anchor)⟩
  unfold ClimbsByName
  rw [hclimb, ← hthere]
  cases habs : p.isAbsolute with
  | false =>
    rw [normalNames_false_iff (by omega)]
    simp
  | true =>
    have hroot : (climb n p).normal.names = normalNames true (p.names.rdrop n) := by
      rw [climb_eq, ← habs]
      rfl
    rw [normalNames_true_iff (by omega), hroot]
    · simp
    · intro hshort
      rw [List.rdrop, Nat.sub_eq_zero_of_le (by omega), List.take_zero]

/-! ## Imports of modules -/

/-- An import of a module by its name, with dots for the level. -/
def moduleSpecifier (level : Nat) (segments : List String) : String :=
  String.ofList (List.replicate level '.') ++ ".".intercalate segments

theorem replaceDots_append (s t : String) : replaceDots (s ++ t) = replaceDots s ++ replaceDots t := by
  rw [replaceDots, String.toList_append, List.map_append, String.ofList_append, replaceDots, replaceDots]

theorem replaceDots_eq_self {s : String} (h : '.' ∉ s.toList) : replaceDots s = s := by
  have hmap : (s.toList.map fun c => if c = '.' then '/' else c) = s.toList := by
    refine (List.map_congr_left fun c hc => if_neg ?_).trans (List.map_id _)
    rintro rfl
    exact h hc
  rw [replaceDots, hmap, String.ofList_toList]

theorem replaceDots_intercalate {parts : List String} (h : ∀ part ∈ parts, '.' ∉ part.toList) :
    replaceDots (".".intercalate parts) = "/".intercalate parts := by
  induction parts with
  | nil => rfl
  | cons first rest ih =>
    rw [List.forall_mem_cons] at h
    cases rest with
    | nil =>
      rw [String.intercalate_singleton, String.intercalate_singleton, replaceDots_eq_self h.1]
    | cons second rest =>
      have hdot : replaceDots "." = "/" := rfl
      rw [String.intercalate_cons_cons, replaceDots_append, replaceDots_append, ih h.2, hdot,
        replaceDots_eq_self h.1, String.intercalate_cons_cons]

section

variable {packages : List String} {name : String} (h : ∀ s ∈ packages ++ [name], s ≠ "" ∧ IsPart s)
include h

theorem head?_moduleName : (".".intercalate (packages ++ [name])).toList.head? ≠ some '.' := by
  obtain ⟨first, rest, hparts⟩ := List.exists_cons_of_ne_nil (List.concat_ne_nil name packages)
  rw [hparts] at h ⊢
  obtain ⟨hempty, hdot, -⟩ := h first List.mem_cons_self
  rw [head?_intercalate hempty]
  exact fun hhead => hdot (List.mem_of_mem_head? hhead)

/-- The dots of a specifier end where the name of the module starts. -/
theorem span_moduleSpecifier (level : Nat) :
    (moduleSpecifier level (packages ++ [name])).toList.takeWhile (· = '.') =
        List.replicate level '.' ∧
      (moduleSpecifier level (packages ++ [name])).toList.dropWhile (· = '.') =
        (".".intercalate (packages ++ [name])).toList := by
  have hhead := head?_moduleName h
  rw [moduleSpecifier, String.toList_append, String.toList_ofList,
    List.takeWhile_append_of_pos (by simp), List.dropWhile_append_of_pos (by simp)]
  cases hcs : (".".intercalate (packages ++ [name])).toList with
  | nil => exact ⟨List.append_nil _, rfl⟩
  | cons c r =>
    rw [hcs] at hhead
    have hc : c ≠ '.' := by simpa using hhead
    simp [hc]

/-- The files that the import of a module by its name may mean. -/
theorem moduleCandidates_eq (up : Nat) (base : Path) :
    moduleCandidates (moduleSpecifier (up + 1) (packages ++ [name])) base =
      .ok [(climb up base).below (packages ++ [name ++ ".py"]),
        (climb up base).below (packages ++ [name, "__init__.py"])] := by
  have hkept : ∀ s ∈ packages ++ [name], IsKept s :=
    fun s hs => ((h s hs).2.isPlain (h s hs).1).1
  have hne : packages ++ [name] ≠ [] := List.concat_ne_nil _ _
  have hrest : "/".intercalate (packages ++ [name]) ≠ "" := by
    intro hempty
    have hnames := congrArg (fun s => (ofString s).names) hempty
    rw [ofString_intercalate hkept hne] at hnames
    exact hne hnames
  have htarget : ((climb up base).below (packages ++ [name])).name = name := by
    rw [Path.name, below, ← List.append_assoc, List.getLast?_concat, Option.getD_some]
  have hinit : ((climb up base).below (packages ++ [name])).names.dropLast =
      ((climb up base).below packages).names := by
    rw [below, ← List.append_assoc, List.dropLast_concat, below]
  obtain ⟨htake, hdrop⟩ := span_moduleSpecifier h (up + 1)
  unfold moduleCandidates
  dsimp only
  rw [htake, hdrop, String.ofList_toList, replaceDots_intercalate fun s hs => (h s hs).2.1,
    child_intercalate hkept hne, List.length_replicate, Nat.add_sub_cancel, htarget, hinit,
    if_neg (by simpa using hrest), if_neg (by simpa using (h name (by simp)).1),
    child_name (by decide), below_below, List.append_assoc,
    ← below_below _ packages [name ++ ".py"]]
  rfl

end

/-- The same names below a climb and below as many `..` make one path, just if the climb leads where they
do. -/
theorem normal_below_climb_iff (h : ∀ name ∈ names, IsPlain name) (hne : names ≠ []) (base : Path)
    (up : Nat) :
    ((climb up base).below names).normal = (base.child ("/".intercalate (ups up ++ names))).normal ↔
      ClimbsByName base up := by
  have hups : ∀ name ∈ ups up ++ names, IsKept name := by
    intro name hname
    rcases List.mem_append.1 hname with hname | hname
    · rw [List.eq_of_mem_replicate hname]
      decide
    · exact (h name hname).1
  have hdots : ".." ∉ names := fun hmem => (h _ hmem).2 rfl
  rw [child_intercalate hups (List.append_ne_nil_of_right_ne_nil _ hne), ← below_below,
    normal_below hdots, normal_below hdots, below_left_inj, normal_climb_iff]

/-- **Where the dots of a module import lead.** The import of a module by its name may mean two files. They
are the files that the names with slashes lead to, with a `..` for each dot after the first, exactly if
leaving out names climbs as `..` does. -/
theorem importCandidates_climb_iff (base : Path) (up : Nat) {packages : List String} {name : String}
    (h : ∀ s ∈ packages ++ [name], s ≠ "" ∧ IsPart s) :
    ∃ file package,
      importCandidates (moduleSpecifier (up + 1) (packages ++ [name])) base "python" =
        .ok [file, package] ∧
      (file.normal =
          (base.child ("/".intercalate (ups up ++ (packages ++ [name ++ ".py"])))).normal ↔
        ClimbsByName base up) ∧
      (package.normal =
          (base.child ("/".intercalate (ups up ++ (packages ++ [name, "__init__.py"])))).normal ↔
        ClimbsByName base up) := by
  have hplain : ∀ s ∈ packages ++ [name], IsPlain s := fun s hs => (h s hs).2.isPlain (h s hs).1
  have hpackages : ∀ s ∈ packages, IsPlain s := fun s hs => hplain s (List.mem_append_left _ hs)
  have hname : IsPlain name := hplain name (List.mem_append_right _ (List.mem_singleton_self name))
  have hfile : IsPlain (name ++ ".py") := IsExtension.isPlain (by decide) hname.1.2.2
  have hinit : IsPlain "__init__.py" := by decide
  refine ⟨_, _, (if_pos rfl).trans (moduleCandidates_eq h up base), ?_, ?_⟩
  · refine normal_below_climb_iff ?_ (List.concat_ne_nil _ _) base up
    simpa [or_imp, forall_and] using ⟨hpackages, hfile⟩
  · refine normal_below_climb_iff ?_ (by simp) base up
    simpa [or_imp, forall_and] using ⟨hpackages, hname, hinit⟩

/-- A `..` in front of the names that are left out does no harm. -/
theorem importCandidates_climb_within :
    let base : Path := .ofString "../src/api"
    (∀ s ∈ ["db"] ++ ["models"], s ≠ "" ∧ IsPart s) ∧
      moduleSpecifier 3 ["db", "models"] = "...db.models" ∧
      ∃ file package, importCandidates "...db.models" base "python" = .ok [file, package] ∧
        file.normal = (base.child "../../db/models.py").normal ∧
        package.normal = (base.child "../../db/models/__init__.py").normal := by
  intro base
  have h : ∀ s ∈ ["db"] ++ ["models"], s ≠ "" ∧ IsPart s := by decide
  have hclimbs : ClimbsByName base 2 := by decide
  obtain ⟨file, package, hcandidates, hfile, hpackage⟩ := importCandidates_climb_iff base 2 h
  exact ⟨h, rfl, file, package, hcandidates, hfile.2 hclimbs, hpackage.2 hclimbs⟩

/-- A `..` at the end of a directory is left out like any other name. -/
theorem importCandidates_climb_above :
    let base : Path := .ofString "a/.."
    importCandidates (moduleSpecifier 2 ["m"]) base "python" =
        .ok [.ofString "a/m.py", .ofString "a/m/__init__.py"] ∧
      (Path.ofString "a/m.py").normal ≠ (base.child "../m.py").normal := by
  exact ⟨rfl, by decide⟩

end Conformance.Path
