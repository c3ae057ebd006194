import Conformance.Outline.Reading
import Conformance.Settings.Loading
import Conformance.Verification
import Conformance.Workspace.Store

/-! # Workspaces

A workspace is what a batch of analyses under one project root shares: the settings, the outliners
of the languages met so far, the outlines made so far, and the files that imports were found to mean.

* `Workspace`: the state, and `Workspace.new`, a workspace without history.
* `Operation`: what may be done with a workspace and a tree of files: it gives an answer or an
  error, the workspace afterwards, and the events on the way.
* `Operation.root`, `Operation.settings`: the project, found out when it is first asked for.
* `Operation.configure`, `Operation.reset`: another project, or a fresh start.
-/

namespace Conformance
set_option autoImplicit false

/-! ## The state -/

/-- Counts since the workspace was made or reset. -/
structure Stats where
  hits : Nat := 0
  misses : Nat := 0
  evictions : Nat := 0
  /-- Units that have no outline. -/
  degraded : Nat := 0
  deriving DecidableEq

/-- The share of hits, with six decimals. -/
def Stats.hitRate (s : Stats) : String := Number.sixPlaces s.hits (s.hits + s.misses)

/-- What an outline is found by. -/
structure OutlineKey where
  language : Language
  unitId : String
  path : Option String
  text : String
  deriving DecidableEq

def OutlineKey.ofUnit (u : Implementation) : OutlineKey := ⟨u.language, u.id, u.path, u.text⟩

/-- What a resolved import is found by. -/
structure ImportKey where
  base : Path
  specifier : String
  language : String
  deriving DecidableEq

structure Workspace where
  root : Option Path
  /-- Settings that hold whatever the project's files say. -/
  pinned : Option Settings
  loaded : Option Settings := none
  /-- Outliners looked up so far. A language without one is kept, too. -/
  outliners : List (Language × Option Outliner) := []
  outlines : Store OutlineKey (Option Outline)
  imports : List (ImportKey × Option String) := []
  stats : Stats := {}

namespace Workspace

/-- How many outlines a workspace keeps unless told otherwise. -/
def usualCapacity : Int := 1024

/-- A workspace without history. -/
def new (root : Option Path) (pinned : Option Settings) (capacity : Int := usualCapacity) :
    Workspace where
  root
  pinned
  outlines := { capacity }

/-- The workspace without its history: it keeps its root, pinned settings and capacity. -/
def cleared (w : Workspace) : Workspace := new w.root w.pinned w.outlines.capacity

end Workspace

/-! ## Operations -/

/-- Why an operation has no answer. -/
inductive WorkspaceError where
  | settings (e : SettingsError)
  | source (e : SourceRefusal)
  | imports (e : Path.ImportError)
  | uncovered (e : Uncovered)

def WorkspaceError.message : WorkspaceError → String
  | settings e => e.message
  | source e => e.message
  | imports e => e.message
  | uncovered e => e.message

/-- What comes of an operation. -/
structure Outcome (α : Type) where
  answer : Except WorkspaceError α
  workspace : Workspace
  events : List Event

def Operation (α : Type) : Type := FileTree → Workspace → Outcome α

instance : Monad Operation where
  pure a := fun _ w => ⟨.ok a, w, []⟩
  bind x f := fun files w =>
    match x files w with
    | ⟨.error e, w, events⟩ => ⟨.error e, w, events⟩
    | ⟨.ok a, w, events⟩ =>
      let o := f a files w
      { o with events := events ++ o.events }

namespace Operation

def fail {α : Type} (e : WorkspaceError) : Operation α := fun _ w => ⟨.error e, w, []⟩

def ofExcept {α ε : Type} (error : ε → WorkspaceError) : Except ε α → Operation α
  | .ok a => pure a
  | .error e => fail (error e)

def report (events : List Event) : Operation Unit := fun _ w => ⟨.ok (), w, events⟩

def files : Operation FileTree := fun files w => ⟨.ok files, w, []⟩

def workspace : Operation Workspace := fun _ w => ⟨.ok w, w, []⟩

def change (f : Workspace → Workspace) : Operation Unit := fun _ w => ⟨.ok (), f w, []⟩

def count (f : Stats → Stats) : Operation Unit := change fun w => { w with stats := f w.stats }

/-! ## The project -/

/-- The project's root. Unless it is set, it becomes the current directory. -/
def root : Operation Path := do
  match (← workspace).root with
  | some r => pure r
  | none =>
    let r := (← files).current
    change fun w => { w with root := some r }
    pure r

/-- The settings of the project in a directory. -/
def loadSettings (root : Path) : Operation Settings := do
  let (settings, events) := Settings.load (← files) root
  report events
  ofExcept .settings settings

/-- The pinned settings, or those of the project, which are loaded once. -/
def settings : Operation Settings := do
  let w ← workspace
  match w.pinned <|> w.loaded with
  | some s => pure s
  | none =>
    let s ← loadSettings (← root)
    change fun w => { w with loaded := some s }
    pure s

def reset : Operation Unit := do
  change Workspace.cleared
  report [.reset]

/-- Moves to a project. Another one than before takes nothing over from it. -/
def configure (newRoot : Path) : Operation Unit := do
  match (← workspace).root with
  | none => change fun w => { w with root := some newRoot }
  | some old =>
    let files ← files
    if files.resolved newRoot = files.resolved old then pure ()
    else
      report [.rootSwitched old newRoot]
      reset
      change fun w => { w with root := some newRoot }

end Operation

end Conformance
