import Conformance.Contract
import Conformance.Report
import Conformance.Value

/-! # Writing contracts

The exchange form of implementations, results and plans, with every field and in long form.
-/

namespace Conformance
set_option autoImplicit false

def FailureMode.toValue (f : FailureMode) : Value :=
  .record [("error_type", .str f.errorType), ("handling_strategy", .str f.handling)]

def Advisory.toValue (a : Advisory) : Value :=
  .record [("description", .str a.description), ("resolved", .bool a.resolved)]

namespace Contract

def clauseValue (s : String) : Value := .record [("description", .str s)]

def toValue (c : Contract) : Value :=
  .record [("requires", .list (c.requires.map clauseValue)),
    ("on_success", .list (c.onSuccess.map clauseValue)),
    ("on_failure", .list (c.onFailure.map clauseValue)),
    ("invariants", .list (c.invariants.map clauseValue)),
    ("fails", .list (c.fails.map FailureMode.toValue)),
    ("advisories", .list (c.advisories.map Advisory.toValue))]

end Contract

def Value.ofText? : Option String → Value
  | some s => .str s
  | none => .null

def Implementation.toValue (u : Implementation) : Value :=
  .record [("id", .str u.id), ("purpose", .str u.purpose), ("contract", u.contract.toValue),
    ("implementation_text", .str u.text), ("implementation_path", Value.ofText? u.path),
    ("language", .str u.language.name)]

def Assertion.toValue (a : Assertion) : Value :=
  .record [("assertion_text", .str a.text), ("category", .str a.category.name),
    ("passed", .bool a.passed), ("level", .str a.level.name), ("message", .str a.message)]

def Result.toValue (r : Result) : Value :=
  .record [("unit_id", .str r.unitId), ("status", .str r.status.name),
    ("assertions", .list (r.assertions.map Assertion.toValue)),
    ("advisories", .list (r.advisories.map Advisory.toValue))]

def Check.toValue (c : Check) : Value :=
  .record [("assertion_text", .str c.text), ("category", .str c.category.name),
    ("level", .str c.level.name), ("insertion_point", .str c.insertionPoint.name),
    ("guard_expression", .str c.guard), ("error_message", .str c.errorMessage)]

def Plan.toValue (p : Plan) : Value :=
  .record [("unit_id", .str p.unitId), ("checks", .list (p.checks.map Check.toValue))]

def Summary.toValue (s : Summary) : Value :=
  .record [("total_units", .nat s.totalUnits), ("proven_units", .nat s.provenUnits),
    ("failed_units", .nat s.failedUnits), ("total_assertions", .nat s.totalAssertions),
    ("failed_assertions", .nat s.failedAssertions),
    ("assertions_by_level", .record (Level.all.map fun l => (l.name, .nat (s.byLevel l)))),
    ("advisories", .nat s.advisories)]

end Conformance
