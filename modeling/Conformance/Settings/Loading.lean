import Conformance.Event
import Conformance.FileTree
import Conformance.Json.Reader
import Conformance.Settings.Reading

/-! # Loading a project's settings

The settings of a project stand in a file of its root directory: the first of some files that is
there decides alone. Without one, the compiler's options give a few settings and are never a reason
to fail.

* `Settings.load`: the settings of a project, or why they cannot be used, and what is reported.
* `Settings.ofCompilerOptions`: the settings that the compiler's options give.
-/

namespace Conformance.Settings
set_option autoImplicit false

/-- The files that settings may stand in, the deciding one first. -/
def fileNames : List String := [".glass.yml", ".glass.yaml", "glass.config.yml"]

def compilerFileName : String := "tsconfig.json"

/-! ## The compiler's options -/

/-- The options in a document. Without any, they are empty; they may also be no mapping. -/
def compilerOptions? (document : Value) : Option Entries :=
  match document with
  | .map entries =>
    match Value.lookup? entries "compilerOptions" with
    | none | some .null => some []
    | some (.map options) => some options
    | some _ => none
  | _ => some []

/-- Strictness and target as the options give them; a value of another type is reported and has no
effect. -/
def ofCompilerOptions (file : Path) (options : Entries) : Settings × List Event :=
  let base : Settings := { source := some file.toString }
  let (strict, strictEvents) := match Value.lookup? options "strict" with
    | none => (base.strict, [])
    | some (.bool b) => (b, [])
    | some v => (base.strict, [Event.strictIgnored file v])
  let (target, targetEvents) := match Value.lookup? options "target" with
    | none => (base.target, [])
    | some (.str s) => (s, [])
    | some v => (base.target, [Event.targetIgnored file v])
  ({ base with strict, target }, strictEvents ++ targetEvents)

/-- The settings that the compiler's options in a file give. -/
def ofCompilerFile (files : FileTree) (file : Path) : Settings × List Event :=
  match (files.text? file).bind Json.read? with
  | none => ({}, [.optionsUnreadable file])
  | some document =>
    match compilerOptions? document with
    | none => ({}, [.optionsMalformed file])
    | some options => ofCompilerOptions file options

/-! ## The settings of a project -/

/-- The first of the files with settings that is there. -/
def file? (files : FileTree) (root : Path) : Option Path :=
  (fileNames.map root.child).find? files.exists?

def ofFile (files : FileTree) (file : Path) : Except SettingsError Settings :=
  match files.text? file with
  | some s => ofText s (some file.toString)
  | none => .error (.unreadable file.toString)

/-- The settings of the project in a directory. -/
def load (files : FileTree) (root : Path) : Except SettingsError Settings × List Event :=
  match file? files root with
  | some file => (ofFile files file, [.settingsFound file])
  | none =>
    let file := root.child compilerFileName
    if files.exists? file then
      let (settings, events) := ofCompilerFile files file
      (.ok settings, .settingsFound file :: events)
    else (.ok {}, [.settingsMissing root])

end Conformance.Settings
