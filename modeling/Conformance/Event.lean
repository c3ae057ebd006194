import Conformance.Path
import Conformance.Value

/-! # Events

What is reported while settings are loaded, outlines are made and units are verified.

* `Event`: what happened, with the facts that are reported.
* `Event.severity`, `Event.message`: how it is reported.
-/

namespace Conformance
set_option autoImplicit false

inductive Severity where
  | debug | info | warning
  deriving DecidableEq, Repr

namespace Severity

def name : Severity → String
  | debug => "debug"
  | info => "info"
  | warning => "warning"

end Severity

inductive Event where
  | settingsMissing (root : Path)
  | settingsFound (file : Path)
  /-- The compiler's options cannot be read. -/
  | optionsUnreadable (file : Path)
  | optionsMalformed (file : Path)
  | strictIgnored (file : Path) (value : Value)
  | targetIgnored (file : Path) (value : Value)
  | rootSwitched (before after : Path)
  | reset
  | outlinerMissing (unitId language : String)
  | scriptUnreadable (path : String) (hasMarkup : Bool)
  | moduleUnreadable (path : String)
  | degraded (unitId language : String)
  | outlined (unitId language : String) (functions : Nat)
  | importUnresolved (specifier : String) (base : Path)
  | verified (unitId status : String) (assertions failed : Nat) (textOnly : Bool)
  | batchVerified (units : Nat) (failed : List String) (degraded : Nat)
  | planned (unitId : String) (before after : Nat)

namespace Event

def severity : Event → Severity
  | settingsMissing _ | scriptUnreadable _ _ | moduleUnreadable _ | outlined _ _ _
  | importUnresolved _ _ | verified _ _ _ _ _ | planned _ _ _ => .debug
  | settingsFound _ | rootSwitched _ _ | reset | outlinerMissing _ _ | batchVerified _ _ _ => .info
  | optionsUnreadable _ | optionsMalformed _ | strictIgnored _ _ | targetIgnored _ _
  | degraded _ _ => .warning

def message : Event → String
  | settingsMissing _ => "No analysis config found, using defaults"
  | settingsFound _ => "Loading analysis config"
  | optionsUnreadable _ => "Unreadable tsconfig, using defaults"
  | optionsMalformed _ => "Malformed tsconfig compilerOptions, using defaults"
  | strictIgnored _ _ => "Ignoring non-boolean tsconfig strict"
  | targetIgnored _ _ => "Ignoring non-string tsconfig target"
  | rootSwitched _ _ => "Analysis context switching project root"
  | reset => "Analysis cache reset"
  | outlinerMissing _ _ => "No semantic builder for language, verifying text only"
  | scriptUnreadable _ _ => "TypeScript parse failed"
  | moduleUnreadable _ => "Python parse failed"
  | degraded _ _ => "Implementation has syntax errors, degrading to text matching"
  | outlined _ _ _ => "Semantic model built"
  | importUnresolved _ _ => "Unresolved relative import"
  | verified _ _ _ _ _ => "Unit verified"
  | batchVerified _ _ _ => "Verification complete"
  | planned _ _ _ => "Instrumentation planned"

end Event

end Conformance
