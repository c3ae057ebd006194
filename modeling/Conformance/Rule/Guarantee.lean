import Conformance.Rule.Basic
import Conformance.Clause.Subject
import Conformance.Text.WholeWord

/-! # Guarantees and declared failures

* `Rule.guarantee`: guarantees and other preconditions are left to run time, unless a guarantee
  names a result type that a top-level function declares.
* `Rule.failureMode`: a declared error type has to occur in the implementation text.
-/

namespace Conformance.Rule
open Text
set_option autoImplicit false

/-- The first function whose declared return type mentions the type, with that return type. -/
def declaresResult? (type : String) (outline : Outline) : Option (String × String) :=
  outline.functions.findSome? fun f =>
    (f.returnType.filter fun t => containsWord t type).map fun t => (f.name, t)

def assessGuarantee (text : String) (category : Category) (evidence : Evidence) : Assertion :=
  let declared :=
    if category = .precondition then none
    else (Clause.resultType? text).bind fun type => evidence.outline.bind (declaresResult? type)
  match declared with
  | some (function, type) =>
    settled text category true (function ++ "() declares return type " ++ type)
  | none => deferred text category "not statically provable, checked at runtime"

def guarantee : Rule where
  covers category :=
    category == .precondition || category == .successGuarantee || category == .failureGuarantee
  assess := assessGuarantee

def assessFailureMode (text : String) (category : Category) (evidence : Evidence) : Assertion :=
  if containsWord evidence.source text then
    let handled := evidence.outline.any fun o => o.handledErrorTypes.contains text
    settled text category true
      (if handled then "referenced in implementation (tested in an error handler)"
      else "referenced in implementation")
  else settled text category false "not found in implementation"

def failureMode : Rule where
  covers category := category == .failureMode
  assess := assessFailureMode

end Conformance.Rule
