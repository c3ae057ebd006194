import Conformance.Plan
import Conformance.Report
import Conformance.Workspace.Outlining

/-! # Verifying units in a workspace

* `Operation.verifyOne`: the result for one unit.
* `Operation.verifyAll`: the results for a batch.
* `Operation.planChecks`: the runtime checks for a unit.
-/

namespace Conformance
set_option autoImplicit false

namespace Operation

/-- The result of a unit against its outline. -/
def verify (settings : Settings) (u : Implementation) (o : Option Outline) : Operation Result := do
  let r ← ofExcept .uncovered ({ settings : Verifier }.verify u o)
  report [.verified u.id r.status.name r.assertions.length r.failedAssertions.length o.isNone]
  pure r

/-- The result of a unit in the project at a root, or in the project that the workspace has. -/
def verifyOne (u : Implementation) (projectRoot : Option Path) : Operation Result := do
  match projectRoot with
  | some r => configure r
  | none => pure ()
  let o ← outline u
  verify (← settings) u o

/-- The results of units against the outlines of their ids, in the units' order. -/
def verifyEach (settings : Settings) (outlines : List (String × Option Outline)) :
    List Implementation → Operation (List (String × Result))
  | [] => pure []
  | u :: rest => do
    let r ← verify settings u ((Keyed.get? outlines u.id).getD none)
    let rest ← verifyEach settings outlines rest
    pure ((u.id, r) :: rest)

/-- The results of a batch in the project at a root. A unit whose source cannot be read is verified
by its text. -/
def verifyAll (units : List Implementation) (projectRoot : Path) : Operation Batch := do
  configure projectRoot
  let settings ← settings
  let outlines ← outlineAll units
  let batch := Batch.ofList (← verifyEach settings outlines units)
  report [.batchVerified batch.entries.length batch.blocking
    (outlines.countP fun e => e.2.isNone)]
  pure batch

/-- The runtime checks that a unit's result leaves to be made. -/
def planChecks (u : Implementation) (r : Result) : Operation (Except ForeignResult Plan) := do
  match Plan.make u r with
  | .ok p =>
    report [.planned p.unitId p.preChecks.length p.postChecks.length]
    pure (.ok p)
  | .error e => pure (.error e)

end Operation

end Conformance
