import Conformance.Workspace

/-! # Finding sources and imports

* `inferSource`: the file that a unit's implementation lies in.
* `resolveImport`: the file that a relative import means.
* `Operation.import?`: the same through the workspace, which looks each import up once.
-/

namespace Conformance
set_option autoImplicit false

/-- The file of a unit: the path it is given with, or the first of the usual places where there is
something. -/
def inferSource (files : FileTree) (unitId : String) (root : Path) (language : String)
    (path : Option String) : Option Path :=
  match path with
  | none | some "" => (Path.sourceCandidates unitId root language).find? files.exists?
  | some p => some (root.child p)

/-- The first file among the candidates of a relative import; other imports mean no file. -/
def resolveImport (files : FileTree) (specifier : String) (base : Path) (language : String) :
    Except Path.ImportError (Option Path) :=
  if Path.isRelativeImport specifier then
    (Path.importCandidates specifier base language).map fun l => l.find? files.isFile
  else .ok none

namespace Operation

/-- The file that an import means, looked up unless the workspace knows it. -/
def import? (specifier : String) (base : Path) (language : String) : Operation (Option String) := do
  let key : ImportKey := ⟨base, specifier, language⟩
  match (← workspace).imports.find? fun e => e.1 = key with
  | some (_, found) => pure found
  | none =>
    let found ← ofExcept .imports (resolveImport (← files) specifier base language)
    let text := found.map Path.toString
    change fun w => { w with imports := (key, text) :: w.imports }
    if found.isNone && Path.isRelativeImport specifier then
      report [.importUnresolved specifier base]
    pure text

/-- The imports with the files that the relative ones among them mean. -/
def resolveFrom (base : Path) (language : String) :
    List Outline.Import → Operation (List Outline.Import)
  | [] => pure []
  | i :: rest => do
    let resolved ← if i.isRelative then import? i.specifier base language else pure i.resolved
    let rest ← resolveFrom base language rest
    pure (⟨i.specifier, resolved⟩ :: rest)

/-- The imports of a unit. They are relative to its file, or to the sources' directory. -/
def resolveImports (u : Implementation) (imports : List Outline.Import) :
    Operation (List Outline.Import) := do
  if imports.any Outline.Import.isRelative then
    let root ← root
    let source := inferSource (← files) u.id root u.language.name u.path
    let base := match source with
      | some p => p.parent
      | none => root.child "src"
    resolveFrom base u.language.name imports
  else pure imports

end Operation

end Conformance
