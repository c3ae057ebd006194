import Conformance.Contract
import Conformance.Value
import Conformance.Checked

/-! # Reading contracts

Contracts, results and plans in exchange form. Unknown keys are ignored and every complaint is
collected, in the order of the fields. Contracts have short forms: a section may be null, a clause
or advisory a bare text, and the failure modes a mapping from error type to handling.

* `Implementation.read`, `Result.read`, `Plan.read`.
-/

namespace Conformance
set_option autoImplicit false

namespace Checked

abbrev Entries := List (Scalar × Value)

/-- The entries of a mapping. -/
def record {α : Type} (read : Entries → Checked α) : Value → Checked α
  | .map entries => read entries
  | _ => fail .noRecord

/-- A field that may be left out if there is a default. -/
def field {α : Type} (name : String) (read : Value → Checked α) (default : Option α)
    (entries : Entries) : Checked α :=
  match Value.lookup? entries name, default with
  | some v, _ => under (.key name) (read v)
  | none, some a => ok a
  | none, none => under (.key name) (fail .missing)

def string : Value → Checked String
  | .str s => ok s
  | _ => fail .noText

def stringOrNull : Value → Checked (Option String)
  | .null => ok none
  | .str s => ok (some s)
  | _ => fail .noText

def list {α : Type} (read : Value → Checked α) : Value → Checked (List α)
  | .list items => each read 0 items
  | _ => fail .noList

/-- One of a fixed set of texts. -/
def choice {α : Type} (ofName? : String → Option α) : Value → Checked α
  | .str s =>
    match ofName? s with
    | some a => ok a
    | none => fail .notAllowed
  | _ => fail .notAllowed

/-- The texts that stand for a truth value, in lower case. -/
def truthTexts : List (String × Bool) :=
  [("1", true), ("true", true), ("t", true), ("yes", true), ("y", true), ("on", true),
    ("0", false), ("false", false), ("f", false), ("no", false), ("n", false), ("off", false)]

def truthOfInt (n : Int) : Checked Bool :=
  if n = 1 then ok true else if n = 0 then ok false else fail .unreadableTruthValue

/-- A truth value, or a number or text that stands for one. -/
def truth : Value → Checked Bool
  | .bool b => ok b
  | .int n => truthOfInt n
  | .scalar (.float x) =>
    if x == 1 then ok true
    else if x == 0 then ok false
    else if x.floor == x && !x.isInf then fail .unreadableTruthValue
    else fail .noTruthValue
  | .str s =>
    match truthTexts.lookup (s.map Char.toLower) with
    | some b => ok b
    | none => fail .unreadableTruthValue
  | _ => fail .noTruthValue

end Checked

open Checked

def Advisory.read : Value → Checked Advisory :=
  record fun e => Advisory.mk <$> field "description" string none e
    <*> field "resolved" truth (some false) e

def FailureMode.read : Value → Checked FailureMode :=
  record fun e => FailureMode.mk <$> field "error_type" string none e
    <*> field "handling_strategy" string (some "") e

namespace Contract

/-- A clause in long form is a record with its description. -/
def readClause : Value → Checked String := record (field "description" string none)

def describe (s : String) : Value := .map [(.str "description", .str s)]

/-- The long form of a clause or advisory. -/
def longEntry : Value → Value
  | .str s => describe s
  | v => v

/-- The long form of a section of clauses or advisories. -/
def longSection : Value → Value
  | .null => .list []
  | .list items => .list (items.map longEntry)
  | v => v

def longMode (e : Scalar × Value) : Value :=
  .map [(.str "error_type", .scalar e.1), (.str "handling_strategy", e.2)]

/-- The long form of the failure modes. -/
def longFails : Value → Value
  | .null => .list []
  | .map entries => .list (entries.map longMode)
  | v => v

def clauses (name : String) (e : Entries) : Checked (List String) :=
  field name (fun v => list readClause (longSection v)) (some []) e

def read : Value → Checked Contract :=
  record fun e => Contract.mk <$> clauses "requires" e <*> clauses "on_success" e
    <*> clauses "on_failure" e <*> clauses "invariants" e
    <*> field "fails" (fun v => list FailureMode.read (longFails v)) (some []) e
    <*> field "advisories" (fun v => list Advisory.read (longSection v)) (some []) e

end Contract

def Implementation.read : Value → Checked Implementation :=
  record fun e => Implementation.mk <$> field "id" string none e <*> field "purpose" string (some "") e
    <*> field "contract" Contract.read (some Contract.empty) e
    <*> field "implementation_text" string (some "") e
    <*> field "implementation_path" stringOrNull (some none) e
    <*> field "language" (choice Language.ofName?) (some .typescript) e

def Assertion.read : Value → Checked Assertion :=
  record fun e => Assertion.mk <$> field "assertion_text" string none e
    <*> field "category" (choice Category.ofName?) none e <*> field "passed" truth none e
    <*> field "level" (choice Level.ofName?) none e <*> field "message" string none e

def Result.read : Value → Checked Result :=
  record fun e => Result.mk <$> field "unit_id" string none e
    <*> field "status" (choice Status.ofName?) none e
    <*> field "assertions" (list Assertion.read) (some []) e
    <*> field "advisories" (list Advisory.read) (some []) e

def Check.read : Value → Checked Check :=
  record fun e => Check.mk <$> field "assertion_text" string none e
    <*> field "category" (choice Category.ofName?) none e
    <*> field "level" (choice Level.ofName?) none e
    <*> field "insertion_point" (choice InsertionPoint.ofName?) none e
    <*> field "guard_expression" string none e <*> field "error_message" string none e

def Plan.read : Value → Checked Plan :=
  record fun e => Plan.mk <$> field "unit_id" string none e
    <*> field "checks" (list Check.read) (some []) e

end Conformance
