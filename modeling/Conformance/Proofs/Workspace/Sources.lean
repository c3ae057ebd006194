import Conformance.Proofs.Outline.Imports
import Conformance.Proofs.Workspace.Project

/-! # Which sources get an outline

The source of a module is refused before it is read if there is a null character in it or in its
path. Every other source has an outline or is known to have none: syntax errors are no reason to
fail, and imports always resolve.

* `Implementation.refusal?`, `Implementation.IsUnread`: the sources that are refused, and those that
  are not read.
* `Project.exists_outline`, `Project.outline_refused`, `Project.outline_unread`: what a project
  answers for each.
-/

namespace Conformance
set_option autoImplicit false

namespace Implementation

/-- Why the source of a unit is refused before it is read, if it is. -/
def refusal? (u : Implementation) : Option SourceRefusal :=
  match u.language with
  | .python =>
    if Outliner.hasNull u.readingPath then some .nullInPath
    else if Outliner.hasNull (Source.withoutDirective Outliner.module.commentMark u.text) then
      some .nullInText
    else none
  | _ => none

/-- No outliner reads the source of the unit: there is none, or it finds syntax errors. -/
def IsUnread (settings : Settings) (u : Implementation) : Prop :=
  ∀ outliner, Outliner.ofLanguage? u.language = some outliner →
    outliner.read settings u.readingPath u.text = .unreadable

theorem refusal?_eq_some_iff {u : Implementation} {outliner : Outliner}
    (hl : Outliner.ofLanguage? u.language = some outliner) (settings : Settings)
    (reason : SourceRefusal) :
    u.refusal? = some reason ↔
      outliner.read settings u.readingPath u.text = .refused reason := by
  have hscript : ∀ path source, Outliner.readScript settings path source ≠ .refused reason := by
    intro path source h
    unfold Outliner.readScript at h
    dsimp only at h
    split at h <;> cases h
  cases hu : u.language with
  | typescript | javascript =>
    rw [hu] at hl
    cases hl
    simp [refusal?, hu, Outliner.read, hscript]
  | python =>
    rw [hu] at hl
    cases hl
    simp only [refusal?, hu, Outliner.read, Outliner.readModule]
    split
    · simp
    split
    · simp
    · split <;> simp
  | rust =>
    rw [hu] at hl
    cases hl

theorem refusal?_of_no_outliner {u : Implementation} (hl : Outliner.ofLanguage? u.language = none) :
    u.refusal? = none := by
  cases hu : u.language with
  | rust => simp [refusal?, hu]
  | _ =>
    rw [hu] at hl
    cases hl

end Implementation

namespace Project

variable {p : Project} {u : Implementation} {settings : Settings}

/-! ## Imports -/

theorem exists_importFile {specifier language : String} {base : Path}
    (h : ∃ l, Path.importCandidates specifier base language = .ok l) :
    ∃ found, p.importFile specifier base language = .ok found := by
  obtain ⟨l, hl⟩ := h
  unfold importFile resolveImport
  split
  · rw [hl]
    exact ⟨_, rfl⟩
  · exact ⟨_, rfl⟩

theorem exists_resolveFrom {base : Path} {language : String} {imports : List Outline.Import}
    (h : ∀ i ∈ imports, ∃ l, Path.importCandidates i.specifier base language = .ok l) :
    ∃ l, p.resolveFrom base language imports = .ok l := by
  induction imports with
  | nil => exact ⟨[], rfl⟩
  | cons i rest ih =>
    obtain ⟨hi, hrest⟩ := List.forall_mem_cons.1 h
    obtain ⟨found, hfound⟩ := exists_importFile (p := p) hi
    obtain ⟨l, hl⟩ := ih hrest
    rw [resolveFrom, hl]
    split
    · rw [hfound]
      exact ⟨_, rfl⟩
    · exact ⟨_, rfl⟩

theorem exists_resolveImports {imports : List Outline.Import}
    (h : ∀ i ∈ imports, ∀ base,
      ∃ l, Path.importCandidates i.specifier base u.language.name = .ok l) :
    ∃ l, p.resolveImports u imports = .ok l := by
  unfold resolveImports
  split
  · exact exists_resolveFrom fun i hi => h i hi _
  · exact ⟨_, rfl⟩

/-! ## Outlines -/

theorem outline_refused {reason : SourceRefusal} (hs : p.settings = .ok settings)
    (h : u.refusal? = some reason) : p.outline u = .error (.source reason) := by
  cases hl : Outliner.ofLanguage? u.language with
  | none =>
    rw [Implementation.refusal?_of_no_outliner hl] at h
    cases h
  | some outliner =>
    rw [outline_of_outliner hl hs, (Implementation.refusal?_eq_some_iff hl settings reason).1 h]
    rfl

theorem outline_unread (hs : p.settings = .ok settings) (h : u.IsUnread settings) :
    p.outline u = .ok none := by
  cases hl : Outliner.ofLanguage? u.language with
  | none => exact outline_of_no_outliner hl
  | some outliner =>
    rw [outline_of_outliner hl hs, h outliner hl]
    rfl

/-- A source that is not refused has an outline, or is known to have none. -/
theorem exists_outline (hs : p.settings = .ok settings) (h : u.refusal? = none) :
    ∃ o, p.outline u = .ok o := by
  cases hl : Outliner.ofLanguage? u.language with
  | none => exact ⟨none, outline_of_no_outliner hl⟩
  | some outliner =>
    rw [outline_of_outliner hl hs]
    cases hread : outliner.read settings u.readingPath u.text with
    | refused reason =>
      rw [(Implementation.refusal?_eq_some_iff hl settings reason).2 hread] at h
      cases h
    | unreadable => exact ⟨none, rfl⟩
    | outlined o =>
      -- What was read can be resolved, so that there is no third way to fail.
      obtain ⟨l, himports⟩ := exists_resolveImports (p := p)
        (Outliner.exists_importCandidates hl hread)
      rw [outlineOf, himports]
      exact ⟨_, rfl⟩

end Project

end Conformance
