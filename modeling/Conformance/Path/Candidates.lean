import Conformance.Path
import Conformance.Language
import Conformance.Text.Quoted

/-! # Where a module and its imports may lie

* `virtualPath`: the name of an implementation that is known only as text.
* `sourceCandidates`: the usual places of a unit's source below the project root.
* `importCandidates`: the files that a relative import may mean.
-/

namespace Conformance.Path
open Text
set_option autoImplicit false

def replaceDots (s : String) : String :=
  String.ofList (s.toList.map fun c => if c = '.' then '/' else c)

/-- The unit's dotted id as a path below a directory of its own. -/
def virtualPath (unitId language : String) : String :=
  let extension := ((Language.extensionsOf language).head?).getD ".txt"
  joinText "__glass_verify__" (replaceDots unitId ++ extension)

/-- Keeps the first of equal entries. -/
def dedup {α : Type} [DecidableEq α] (xs : List α) : List α :=
  (xs.foldl (fun kept x => if x ∈ kept then kept else x :: kept) []).reverse

/-- The places for one extension. A unit id of two parts may also be a file of its module, or the
module's index. -/
def candidatesWith (source : Path) (parts : List String) (extension : String) : List Path :=
  let folder := (parts.dropLast).foldl child source
  let last := (parts.getLast?).getD ""
  (if parts.length = 2 then
    [folder.child (last ++ extension), folder.child (last ++ ".glass"),
      folder.child ("index" ++ extension)]
  else []) ++
  [folder.child (last ++ extension), folder.child (last ++ ".glass")]

def sourceCandidates (unitId : String) (root : Path) (language : String) : List Path :=
  dedup ((Language.extensionsOf language).flatMap
    (candidatesWith (root.child "src") (splitString '.' unitId)))

/-- Why a relative import has no candidates. -/
inductive ImportError where
  | emptyName (target : Path)

def ImportError.message : ImportError → String
  | emptyName target => "PosixPath(" ++ quoted target.toString ++ ") has an empty name"

def climb : Nat → Path → Path
  | 0, p => p
  | n + 1, p => climb n p.parent

/-- A module import: leading dots climb, the dotted rest is a path; it means a file or a package. -/
def moduleCandidates (specifier : String) (base : Path) : Except ImportError (List Path) :=
  let dots := (specifier.toList.takeWhile (· = '.')).length
  let rest := replaceDots (String.ofList (specifier.toList.dropWhile (· = '.')))
  let start := climb (dots - 1) base
  if rest.isEmpty then .ok [start.child "__init__.py"]
  else
    let target := start.child rest
    if target.name.isEmpty then .error (.emptyName target)
    else .ok [{ target with names := target.names.dropLast ++ [target.name ++ ".py"] },
      target.child "__init__.py"]

def scriptSuffixes : List String := [".ts", ".tsx", "/index.ts", ".js", "/index.js"]

/-- A script import: the file as written if it has an extension, the TypeScript source that a
`.js` specifier stands for, then the extensions that may be left out. -/
def scriptCandidates (specifier : String) (base : Path) : List Path :=
  let resolved := (base.child specifier).normal.toString
  (if (ofString resolved).suffix.isEmpty then [] else [ofString resolved]) ++
  (if specifier.endsWith ".js" then
    [ofString (String.ofList (resolved.toList.take (resolved.length - 3)) ++ ".ts")] else []) ++
  scriptSuffixes.map fun suffix => ofString (resolved ++ suffix)

def importCandidates (specifier : String) (base : Path) (language : String) :
    Except ImportError (List Path) :=
  if language = "python" then moduleCandidates specifier base
  else .ok (scriptCandidates specifier base)

def isRelativeImport (specifier : String) : Bool := specifier.startsWith "."

end Conformance.Path
