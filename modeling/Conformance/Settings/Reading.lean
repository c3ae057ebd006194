import Conformance.Settings
import Conformance.Value.Literal
import Conformance.Yaml.Document

/-! # Reading settings

Settings are a mapping, at the top of a document or under `verification`. A setting of the wrong
type is refused, the first one in a fixed order; other keys have no effect.

* `Settings.ofValue`: the settings in a value.
* `Settings.ofText`: the settings in a YAML text.
-/

namespace Conformance
set_option autoImplicit false

/-- What kind of value a setting takes. -/
inductive SettingKind where
  | truth | text | names
  deriving DecidableEq

inductive SettingsError where
  | document (fault : Yaml.Fault)
  | unreadable (file : String)
  | noMapping
  | noVerificationMapping
  | wrongType (key : String) (kind : SettingKind) (value : Value)

namespace SettingsError

def expectation : SettingKind → String
  | .truth => "true or false"
  | .text => "a string"
  | .names => "a list of names"

def message : SettingsError → String
  | document fault => fault.message
  | unreadable file => "Cannot read " ++ file
  | noMapping => "Configuration must be a mapping"
  | noVerificationMapping => "'verification' must be a mapping"
  | wrongType key kind value =>
    "'" ++ key ++ "' must be " ++ expectation kind ++ ", got " ++ value.literal

end SettingsError

namespace Settings

abbrev Entries := List (Scalar × Value)

def truth (entries : Entries) (key : String) (default : Bool) : Except SettingsError Bool :=
  match Value.lookup? entries key with
  | none => .ok default
  | some (.bool b) => .ok b
  | some v => .error (.wrongType key .truth v)

def text (entries : Entries) (key : String) (default : String) : Except SettingsError String :=
  match Value.lookup? entries key with
  | none => .ok default
  | some (.str s) => .ok s
  | some v => .error (.wrongType key .text v)

/-- The texts of the items, if all items are texts. -/
def texts? : List Value → Option (List String)
  | [] => some []
  | .str s :: rest => (texts? rest).map (s :: ·)
  | _ :: _ => none

def names (entries : Entries) (key : String) (default : List String) :
    Except SettingsError (List String) :=
  match Value.lookup? entries key with
  | none => .ok default
  | some (.list items) =>
    match texts? items with
    | some l => .ok l
    | none => .error (.wrongType key .names (.list items))
  | some v => .error (.wrongType key .names v)

def ofEntries (entries : Entries) (source : Option String) : Except SettingsError Settings := do
  let base : Settings := {}
  let strict ← truth entries "strict" base.strict
  let declaration ← truth entries "declaration" base.declaration
  let recoverSyntaxErrors ← truth entries "recover_syntax_errors" base.recoverSyntaxErrors
  let target ← text entries "target" base.target
  let defaultLanguage ← text entries "language" base.defaultLanguage
  let sinks ← names entries "log_sinks" base.logSinks
  let extraSinks ← names entries "extra_log_sinks" []
  let safeCalls ← names entries "safe_calls" base.safeCalls
  pure ⟨strict, declaration, target, defaultLanguage, recoverSyntaxErrors, sinks ++ extraSinks,
    safeCalls, source⟩

/-- The settings in a value, or the first thing wrong with it. A mapping that holds itself under
`verification` is the one that the settings stand in. -/
def ofValue (v : Value) (source : Option String) : Except SettingsError Settings :=
  match v with
  | .map entries =>
    match Value.lookup? entries "verification" with
    | none => ofEntries entries source
    | some (.cycle true) => ofEntries entries source
    | some (.map inner) => ofEntries inner source
    | some _ => .error .noVerificationMapping
  | _ => .error .noMapping

/-- A value that holds nothing: null, false, zero, or an empty text or collection. -/
def isVoid : Value → Bool
  | .scalar .null => true
  | .scalar (.bool b) => !b
  | .scalar (.int n) => n == 0
  | .scalar (.float x) => x == 0
  | .scalar (.str s) => s.isEmpty
  | .scalar (.bytes b) => b.isEmpty
  | .list items => items.isEmpty
  | .tuple items => items.isEmpty
  | .set members => members.isEmpty
  | .map entries => entries.isEmpty
  | _ => false

/-- The settings in a YAML text. A document that holds nothing is taken for an empty mapping. -/
def ofText (s : String) (source : Option String) : Except SettingsError Settings :=
  match Yaml.document s with
  | .ok v => ofValue (if isVoid v then .map [] else v) source
  | .error fault => .error (.document fault)

end Settings

end Conformance
