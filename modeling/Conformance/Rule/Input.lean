import Conformance.Rule.Basic
import Conformance.Clause.Subject
import Conformance.Text.WholeWord

/-! # Preconditions

* `Rule.input`: an `input.` clause passes if the implementation reads the field it names.
* `Rule.system`: dependencies outside the module are left to run time.
-/

namespace Conformance.Rule
open Text
set_option autoImplicit false

/-- The dotted path behind `input.`; another subject is its own path. -/
def fieldPath (clause : String) : String :=
  let subject := (Clause.subject? clause).getD ""
  ((after? "input.".toList subject.toList).map String.ofList).getD subject

/-- How one parameter shows that the field is read. -/
def parameterReads? (path field : String) (outline : Outline) (function : String)
    (p : Outline.Parameter) : Option String :=
  if outline.memberPaths.contains (p.name ++ "." ++ path) then
    some ("read as " ++ p.name ++ "." ++ path ++ " in " ++ function ++ "()")
  else if p.destructured.any fun d => d.1 == field && outline.identifiers.contains d.2 then
    some ("destructured from a parameter of " ++ function ++ "() and used")
  else none

/-- The first parameter of a top-level function through which the field is read. -/
def outlineReads? (path field : String) (outline : Outline) : Option String :=
  outline.functions.findSome? fun f =>
    f.parameters.findSome? (parameterReads? path field outline f.name)

def assessInput (text : String) (category : Category) (evidence : Evidence) : Assertion :=
  let path := fieldPath text
  let field := lastSegment path
  if field.isEmpty then settled text category false "no input field named in precondition"
  else
    match evidence.outline.bind (outlineReads? path field) with
    | some reading => settled text category true ("input field '" ++ field ++ "' " ++ reading)
    | none =>
      if containsWord evidence.source field then
        settled text category true
          ("input field '" ++ field ++ "' referenced in implementation text")
      else
        settled text category false
          ("input field '" ++ field ++ "' not referenced in implementation")

def input : Rule where
  covers category := category == .inputPrecondition
  assess := assessInput

def system : Rule where
  covers category := category == .systemPrecondition
  assess text category _ := deferred text category "external dependency, checked at runtime"

end Conformance.Rule
