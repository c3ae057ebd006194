import Conformance.Path.Candidates
import Conformance.Proofs.Path

/-! # Where the source of a unit may lie

The usual places of a unit's source are made of the parts of its id. They lie below one directory of the
project, whatever the id is, as long as there is no slash in it.

* `location?_below`: where plain names lead in a tree of files.
* `nodup_dedup`, `mem_dedup`: no place is looked at twice.
* `candidatesWith_eq`: the places for one extension.
* `sourceCandidates_inside`: all places of a unit's source.
-/

namespace Conformance
open Text
set_option autoImplicit false

/-! ## Going down in a tree of files -/

/-- Plain names lead down from where the path leads. -/
theorem FileTree.location?_below {t : FileTree} {p : Path} {names : List String} {location : Location}
    (h : ".." ∉ names) (hlocation : t.location? (p.below names) = some location) :
    ∃ above, t.location? p = some above ∧ location = names.reverse ++ above := by
  have hrelative : ¬ (Path.mk .relative names).isAbsolute = true := by simp [Path.isAbsolute]
  rw [location?, show p.below names = p.join ⟨.relative, names⟩ from rfl,
    names_absolute_join hrelative, follow_append] at hlocation
  obtain ⟨above, habove, hnames⟩ := Option.bind_eq_some_iff.1 hlocation
  refine ⟨above, habove, ?_⟩
  rw [follow_eq_foldl hnames, foldl_stepped h]

namespace Path

/-! ## Lists without repetition -/

section

variable {α : Type} [DecidableEq α]

theorem nodup_foldl_keep {kept : List α} (h : kept.Nodup) (xs : List α) :
    (xs.foldl (fun kept x => if x ∈ kept then kept else x :: kept) kept).Nodup := by
  induction xs generalizing kept with
  | nil => exact h
  | cons x xs ih =>
    rw [List.foldl_cons]
    split
    · exact ih h
    · next hx => exact ih (List.nodup_cons.2 ⟨hx, h⟩)

theorem mem_foldl_keep {kept : List α} {a : α} (xs : List α) :
    a ∈ xs.foldl (fun kept x => if x ∈ kept then kept else x :: kept) kept ↔ a ∈ kept ∨ a ∈ xs := by
  induction xs generalizing kept with
  | nil => simp
  | cons x xs ih =>
    rw [List.foldl_cons, ih]
    split
    · next hx =>
      rw [List.mem_cons]
      constructor
      · exact Or.imp_right .inr
      · rintro (h | rfl | h)
        · exact .inl h
        · exact .inl hx
        · exact .inr h
    · rw [List.mem_cons, List.mem_cons, or_comm (a := a = x), or_assoc]

theorem nodup_dedup (xs : List α) : (dedup xs).Nodup :=
  List.pairwise_reverse.2 ((nodup_foldl_keep List.nodup_nil xs).imp Ne.symm)

theorem mem_dedup {xs : List α} {a : α} : a ∈ dedup xs ↔ a ∈ xs := by
  rw [dedup, List.mem_reverse, mem_foldl_keep]
  simp

end

/-! ## Parts of an id -/

/-- The directories that parts of an id stand for. -/
def folders (parts : List String) : List String := parts.filter (· ≠ "")

theorem foldl_child {parts : List String} (h : ∀ part ∈ parts, IsPart part) (p : Path) :
    parts.foldl child p = p.below (folders parts) := by
  induction parts generalizing p with
  | nil => exact (below_nil p).symm
  | cons part parts ih =>
    rw [List.forall_mem_cons] at h
    rw [List.foldl_cons, ih h.2]
    by_cases hpart : part = ""
    · rw [hpart, child_empty]
      rfl
    · have hfolders : folders (part :: parts) = part :: folders parts :=
        List.filter_cons_of_pos (by simpa using hpart)
      rw [child_name (h.1.isPlain hpart).1, below_below, hfolders, List.singleton_append]

theorem isPlain_of_mem_folders {parts : List String} (h : ∀ part ∈ parts, IsPart part) {name : String}
    (hname : name ∈ folders parts) : IsPlain name := by
  obtain ⟨hmem, hne⟩ := List.mem_filter.1 hname
  exact (h name hmem).isPlain (by simpa using hne)

/-! ## Places -/

theorem isExtension_of_mem {extension language : String}
    (h : extension ∈ ".glass" :: Language.extensionsOf language) : IsExtension extension := by
  unfold Language.extensionsOf at h
  cases hl : Language.ofName? language with
  | none =>
    rw [hl] at h
    rw [List.mem_singleton.1 h]
    decide
  | some l =>
    have hknown : ∀ e ∈ ".glass" :: l.extensions, IsExtension e := by
      cases l <;> decide
    rw [hl] at h
    exact hknown _ h

/-- The names of the files that are looked for: they are made of the last part of the id, or that of the
index of a module. -/
inductive IsFileName (parts : List String) (last extension : String) : String → Prop
  | ofLanguage : IsFileName parts last extension (last ++ extension)
  | glass : IsFileName parts last extension (last ++ ".glass")
  | index (h : parts.length = 1) : IsFileName parts last extension ("index" ++ extension)

section

variable {parts : List String} {last extension file : String}

/-- The files' names for one extension, in the order in which they are looked for. -/
def fileNamesFor (parts : List String) (last extension : String) : List String :=
  (if parts.length = 1 then [last ++ extension, last ++ ".glass", "index" ++ extension] else []) ++
    [last ++ extension, last ++ ".glass"]

theorem mem_fileNamesFor_iff :
    file ∈ fileNamesFor parts last extension ↔ IsFileName parts last extension file := by
  unfold fileNamesFor
  constructor
  · intro h
    rcases List.mem_append.1 h with h | h
    · split at h
      · next hone =>
        simp only [List.mem_cons, List.not_mem_nil, or_false] at h
        rcases h with rfl | rfl | rfl
        · exact .ofLanguage
        · exact .glass
        · exact .index hone
      · cases h
    · simp only [List.mem_cons, List.not_mem_nil, or_false] at h
      rcases h with rfl | rfl
      · exact .ofLanguage
      · exact .glass
  · intro h
    cases h with
    | ofLanguage => simp
    | glass => simp
    | index hone => simp [hone]

theorem candidatesWith_eq {source : Path} (h : ∀ part ∈ parts ++ [last], IsPart part)
    (hextension : IsExtension extension) :
    candidatesWith source (parts ++ [last]) extension =
      (fileNamesFor parts last extension).map fun file => source.below (folders parts ++ [file]) := by
  have hlast : '/' ∉ last.toList := (h last (by simp)).2
  have hchild {name e : String} (hname : '/' ∉ name.toList) (he : IsExtension e) :
      (source.below (folders parts)).child (name ++ e) =
        source.below (folders parts ++ [name ++ e]) := by
    rw [child_name (he.isPlain hname).1, below_below]
  have hlength : (parts ++ [last]).length = 2 ↔ parts.length = 1 := by simp
  unfold candidatesWith fileNamesFor
  dsimp only
  rw [List.dropLast_concat, List.getLast?_concat, Option.getD_some,
    foldl_child fun part hpart => h part (List.mem_append_left _ hpart), hchild hlast hextension,
    hchild hlast (by decide), hchild (by decide) hextension]
  by_cases hone : parts.length = 1
  · rw [if_pos (hlength.2 hone), if_pos hone]
    rfl
  · rw [if_neg (mt hlength.1 hone), if_neg hone]
    rfl

theorem mem_candidatesWith_iff {source p : Path} (h : ∀ part ∈ parts ++ [last], IsPart part)
    (hextension : IsExtension extension) :
    p ∈ candidatesWith source (parts ++ [last]) extension ↔
      ∃ file, IsFileName parts last extension file ∧ p = source.below (folders parts ++ [file]) := by
  rw [candidatesWith_eq h hextension, List.mem_map]
  exact exists_congr fun file => and_congr mem_fileNamesFor_iff eq_comm

/-- A file's name is plain and ends in an extension. -/
theorem IsFileName.ends {language : String} (h : IsFileName parts last extension file)
    (hlast : '/' ∉ last.toList) (hextension : extension ∈ Language.extensionsOf language) :
    IsPlain file ∧ ∃ e ∈ ".glass" :: Language.extensionsOf language, ∃ stem, file = stem ++ e := by
  have hends {stem e : String} (hstem : '/' ∉ stem.toList)
      (he : e ∈ ".glass" :: Language.extensionsOf language) :
      IsPlain (stem ++ e) ∧
        ∃ e' ∈ ".glass" :: Language.extensionsOf language, ∃ stem', stem ++ e = stem' ++ e' :=
    ⟨(isExtension_of_mem he).isPlain hstem, e, he, stem, rfl⟩
  cases h with
  | ofLanguage => exact hends hlast (List.mem_cons_of_mem _ hextension)
  | glass => exact hends hlast List.mem_cons_self
  | index => exact hends (by decide) (List.mem_cons_of_mem _ hextension)

variable {unitId language : String} {root p : Path}

theorem isPart_of_splitString (hslash : '/' ∉ unitId.toList)
    (hsplit : splitString '.' unitId = parts ++ [last]) : ∀ part ∈ parts ++ [last], IsPart part := by
  intro part hpart
  rw [← hsplit] at hpart
  obtain ⟨cs, hcs, rfl⟩ := List.mem_map.1 hpart
  rw [IsPart, String.toList_ofList]
  exact ⟨not_mem_of_mem_splitOn hcs,
    fun hmem => hslash ((exists_part_iff (by decide)).1 ⟨cs, hcs, hmem⟩)⟩

theorem mem_sourceCandidates_iff (hslash : '/' ∉ unitId.toList)
    (hsplit : splitString '.' unitId = parts ++ [last]) :
    p ∈ sourceCandidates unitId root language ↔
      ∃ extension ∈ Language.extensionsOf language, ∃ file, IsFileName parts last extension file ∧
        p = (root.child "src").below (folders parts ++ [file]) := by
  rw [sourceCandidates, mem_dedup, List.mem_flatMap, hsplit]
  refine exists_congr fun extension => and_congr_right fun hmem => ?_
  exact mem_candidatesWith_iff (isPart_of_splitString hslash hsplit)
    (isExtension_of_mem (List.mem_cons_of_mem _ hmem))

end

/-- **The source of a unit is looked for below one directory.** No place is looked at twice. Each is below
the directory of the sources, by plain names of which the last has one of the extensions; so it leads to
nothing outside that directory. Among them are the files named by the parts of the id, where parts that are
empty stand for no directory. -/
theorem sourceCandidates_inside (unitId language : String) (root : Path)
    (hslash : '/' ∉ unitId.toList) :
    (sourceCandidates unitId root language).Nodup ∧
    (∀ p ∈ sourceCandidates unitId root language,
      (∃ folders file, p = (root.child "src").below (folders ++ [file]) ∧
        (∀ name ∈ folders ++ [file], IsPlain name) ∧
        ∃ extension ∈ ".glass" :: Language.extensionsOf language, ∃ stem, file = stem ++ extension) ∧
      ∀ files location, FileTree.location? files p = some location →
        ∃ source, files.location? (root.child "src") = some source ∧ source <:+ location) ∧
    ∀ parts last, unitId = ".".intercalate (parts ++ [last]) →
      (∀ part ∈ parts ++ [last], '.' ∉ part.toList) →
      ∀ extension ∈ Language.extensionsOf language,
        (root.child "src").below (parts.filter (· ≠ "") ++ [last ++ extension]) ∈
          sourceCandidates unitId root language := by
  refine ⟨nodup_dedup _, fun p hp => ?_, fun parts last hunit hdots extension hextension => ?_⟩
  · have hne : splitString '.' unitId ≠ [] := by
      simpa [splitString] using splitOn_ne_nil '.' unitId.toList
    have hsplit := (List.dropLast_concat_getLast hne).symm
    obtain ⟨extension, hextension, file, hfile, rfl⟩ := (mem_sourceCandidates_iff hslash hsplit).1 hp
    have hparts := isPart_of_splitString hslash hsplit
    obtain ⟨hplain, hends⟩ := hfile.ends (hparts _ (by simp)).2 hextension
    have hnames : ∀ name ∈ folders (splitString '.' unitId).dropLast ++ [file], IsPlain name := by
      intro name hname
      rcases List.mem_append.1 hname with hname | hname
      · exact isPlain_of_mem_folders (fun part hpart => hparts part (List.mem_append_left _ hpart)) hname
      · exact List.mem_singleton.1 hname ▸ hplain
    refine ⟨⟨_, file, rfl, hnames, hends⟩, fun files location hlocation => ?_⟩
    obtain ⟨source, hsource, heq⟩ :=
      FileTree.location?_below (fun hmem => (hnames _ hmem).2 rfl) hlocation
    exact ⟨source, hsource, _, heq.symm⟩
  · have hsplit : splitString '.' unitId = parts ++ [last] := by
      rw [hunit]
      exact splitString_intercalate rfl (List.concat_ne_nil _ _) hdots
    exact (mem_sourceCandidates_iff hslash hsplit).2 ⟨extension, hextension, _, .ofLanguage, rfl⟩

/-- Dots at the start, at the end and side by side: the empty parts stand for nothing. -/
theorem sourceCandidates_inside_of_dots :
    '/' ∉ ".auth..".toList ∧
      (sourceCandidates ".auth.." (.ofString "../p") "python").Nodup ∧
      Path.ofString "../p/src/auth/.py" ∈ sourceCandidates ".auth.." (.ofString "../p") "python" := by
  have hslash : '/' ∉ ".auth..".toList := by decide
  obtain ⟨hnodup, -, hmem⟩ := sourceCandidates_inside ".auth.." "python" (.ofString "../p") hslash
  exact ⟨hslash, hnodup, hmem ["", "auth", ""] "" rfl (by decide) ".py" (by decide)⟩

end Path

end Conformance
