import Conformance.Workspace.Verifying

/-! # Analyses that remember nothing

What an analysis of a project answers when every question is looked up anew. Against these answers
the workspace, which remembers, is measured.

* `Project`: the files, the root, and the settings that hold whatever the files say.
* `Project.settings`, `Project.importFile`, `Project.outline`: what is asked of a project.
-/

namespace Conformance
set_option autoImplicit false

structure Project where
  files : FileTree
  root : Path
  pinned : Option Settings

/-- An answer, or why there is none. -/
abbrev Answer (α : Type) : Type := Except WorkspaceError α

namespace Answer

variable {α β : Type}

theorem ok_bind (a : α) (f : α → Answer β) : ((Except.ok a : Answer α) >>= f) = f a := rfl

theorem error_bind (e : WorkspaceError) (f : α → Answer β) :
    ((Except.error e : Answer α) >>= f) = .error e := rfl

/-- What is answered in two steps is answered in each of them. -/
theorem exists_of_bind {x : Answer α} {f : α → Answer β} {b : β} (h : (x >>= f) = .ok b) :
    ∃ a, x = .ok a ∧ f a = .ok b := by
  cases x with
  | error e => cases h
  | ok a => exact ⟨a, rfl, h⟩

end Answer

namespace Project

def settings (p : Project) : Answer Settings :=
  match p.pinned with
  | some s => .ok s
  | none => (Settings.load p.files p.root).1.mapError .settings

/-! ## Imports -/

/-- The file that an import means. -/
def importFile (p : Project) (specifier : String) (base : Path) (language : String) :
    Answer (Option String) := do
  let found ← (resolveImport p.files specifier base language).mapError .imports
  pure (found.map Path.toString)

/-- The imports with the files that the relative ones among them mean. -/
def resolveFrom (p : Project) (base : Path) (language : String) :
    List Outline.Import → Answer (List Outline.Import)
  | [] => pure []
  | i :: rest => do
    let resolved ← if i.isRelative then p.importFile i.specifier base language else pure i.resolved
    let rest ← p.resolveFrom base language rest
    pure (⟨i.specifier, resolved⟩ :: rest)

/-- The directory that a unit's imports are relative to. -/
def importBase (files : FileTree) (root : Path) (u : Implementation) : Path :=
  match inferSource files u.id root u.language.name u.path with
  | some source => source.parent
  | none => root.child "src"

def resolveImports (p : Project) (u : Implementation) (imports : List Outline.Import) :
    Answer (List Outline.Import) :=
  if imports.any Outline.Import.isRelative then
    p.resolveFrom (importBase p.files p.root u) u.language.name imports
  else pure imports

/-! ## Outlines -/

/-- The outline that comes of reading a unit's source. -/
def outlineOf (p : Project) (u : Implementation) : SourceReading → Answer (Option Outline)
  | .refused reason => .error (.source reason)
  | .unreadable => pure none
  | .outlined o => do
    let imports ← p.resolveImports u o.imports
    pure (some { o with imports })

/-- The outline of a unit, if it has one. -/
def outline (p : Project) (u : Implementation) : Answer (Option Outline) :=
  match Outliner.ofLanguage? u.language with
  | none => pure none
  | some outliner => do
    let settings ← p.settings
    p.outlineOf u (outliner.read settings u.readingPath u.text)

theorem outline_of_outliner {p : Project} {u : Implementation} {outliner : Outliner}
    {settings : Settings} (hl : Outliner.ofLanguage? u.language = some outliner)
    (hs : p.settings = .ok settings) :
    p.outline u = p.outlineOf u (outliner.read settings u.readingPath u.text) := by
  rw [outline, hl, hs]
  rfl

theorem outline_of_no_outliner {p : Project} {u : Implementation}
    (hl : Outliner.ofLanguage? u.language = none) : p.outline u = .ok none := by
  rw [outline, hl]
  rfl

/-- The outline of a unit depends on what it is kept under alone. -/
theorem outline_congr (p : Project) {u v : Implementation}
    (h : OutlineKey.ofUnit u = OutlineKey.ofUnit v) : p.outline u = p.outline v := by
  obtain ⟨hl, hi, hp, ht⟩ : u.language = v.language ∧ u.id = v.id ∧ u.path = v.path ∧
      u.text = v.text := by simpa [OutlineKey.ofUnit] using h
  simp only [outline, outlineOf, resolveImports, importBase, Implementation.readingPath, hl, hi, hp,
    ht]

/-! ## Results -/

def verify (settings : Settings) (u : Implementation) (o : Option Outline) : Answer Result :=
  (({ settings : Verifier }).verify u o).mapError .uncovered

/-- The result of a unit. -/
def verifyOne (p : Project) (u : Implementation) : Answer Result := do
  let o ← p.outline u
  verify (← p.settings) u o

/-! ## Batches -/

/-- The answers for some units under their ids, or why the first of them has none that has none. -/
def each {α : Type} (f : Implementation → Answer α) :
    List Implementation → Answer (List (String × α))
  | [] => pure []
  | u :: rest => do
    let a ← f u
    let rest ← each f rest
    pure ((u.id, a) :: rest)

/-- The result of a unit against the outline of its id. -/
def verifyListed (settings : Settings) (outlines : List (String × Option Outline))
    (u : Implementation) : Answer Result :=
  verify settings u ((Keyed.get? outlines u.id).getD none)

/-- The results of a batch. -/
def verifyAll (p : Project) (units : List Implementation) : Answer Batch := do
  let settings ← p.settings
  let outlines ← each p.outline units
  let results ← each (verifyListed settings (Keyed.ofList outlines)) units
  pure (Batch.ofList results)

end Project

end Conformance
