import Conformance.Keyed
import Conformance.Workspace.Imports

/-! # Outlining units

* `Operation.outliner?`: the outliner of a language, looked up once.
* `Operation.outline`: the outline of a unit, made unless the workspace has it. A unit without an
  outline is verified by its text.
* `Operation.outlineAll`: the outlines of a batch.
-/

namespace Conformance
set_option autoImplicit false

/-- The path that a unit's source is read under. -/
def Implementation.readingPath (u : Implementation) : String :=
  match u.path with
  | none | some "" => Path.virtualPath u.id u.language.name
  | some p => p

/-- That an outliner could not read a source. -/
def Outliner.unreadable (o : Outliner) (path : String) : Event :=
  match o with
  | .script => .scriptUnreadable path (hasMarkup path)
  | .module => .moduleUnreadable path

namespace Operation

/-- The outliner of a language, looked up unless the workspace knows it. -/
def outliner? (language : Language) : Operation (Option Outliner) := do
  match (← workspace).outliners.find? fun e => e.1 = language with
  | some (_, outliner) => pure outliner
  | none =>
    let outliner := Outliner.ofLanguage? language
    change fun w => { w with outliners := (language, outliner) :: w.outliners }
    pure outliner

/-- The outline of a unit that the workspace has none of. -/
def outlineAnew (u : Implementation) : Operation (Option Outline) := do
  let language := u.language.name
  match ← outliner? u.language with
  | none =>
    report [.outlinerMissing u.id language]
    pure none
  | some outliner =>
    let settings ← settings
    match outliner.read settings u.readingPath u.text with
    | .refused reason => fail (.source reason)
    | .unreadable =>
      report [outliner.unreadable u.readingPath, .degraded u.id language]
      pure none
    | .outlined o =>
      let imports ← resolveImports u o.imports
      report [.outlined u.id language o.functions.length]
      pure (some { o with imports })

/-- Keeps an outline, or that there is none, for a unit that the workspace has none of. -/
def keep (u : Implementation) (o : Option Outline) : Operation Unit :=
  change fun w => { w with
    outlines := w.outlines.add (.ofUnit u) o
    stats := { w.stats with
      degraded := w.stats.degraded + (if o.isNone then 1 else 0)
      evictions := w.stats.evictions + w.outlines.evictions } }

/-- The outline of a unit, if it has one. -/
def outline (u : Implementation) : Operation (Option Outline) := do
  match (← workspace).outlines.get? (.ofUnit u) with
  | some o =>
    count fun s => { s with hits := s.hits + 1 }
    pure o
  | none =>
    count fun s => { s with misses := s.misses + 1 }
    let o ← outlineAnew u
    keep u o
    pure o

/-- The outlines of the units, in their order. -/
def outlineEach : List Implementation → Operation (List (String × Option Outline))
  | [] => pure []
  | u :: rest => do
    let o ← outline u
    let rest ← outlineEach rest
    pure ((u.id, o) :: rest)

/-- The outlines of a batch by unit id; of units with one id the last one counts. -/
def outlineAll (units : List Implementation) : Operation (List (String × Option Outline)) := do
  pure (Keyed.ofList (← outlineEach units))

end Operation

end Conformance
