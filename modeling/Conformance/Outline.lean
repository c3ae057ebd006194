import Conformance.Outline.Names
import Conformance.Path.Candidates

/-! # Outlines of implementation modules

An outline is what the rules may ask of a module that could be read: its top-level functions, the
names and dotted paths it mentions, its calls, error handlers and imports.
-/

namespace Conformance
set_option autoImplicit false

namespace Outline

/-- A parameter. For an object pattern, `destructured` pairs each field with its local name. -/
structure Parameter where
  name : String
  typeHint : Option String
  destructured : List (String × String)

structure Function where
  name : String
  line : Nat
  parameters : List Parameter
  returnType : Option String
  isAsync : Bool

/-- A call with the names that its arguments mention. -/
structure CallSite where
  callee : String
  line : Nat
  arguments : Names

/-- An error handler with the error types it tests for. -/
structure Handler where
  line : Nat
  errorTypes : Names

/-- An import, with the file that a relative one was found to mean. -/
structure Import where
  specifier : String
  resolved : Option String

end Outline

structure Outline where
  language : String
  functions : List Outline.Function
  identifiers : Names
  memberPaths : Names
  calls : List Outline.CallSite
  handlers : List Outline.Handler
  imports : List Outline.Import
  /-- The module was read without a syntax error. -/
  clean : Bool

namespace Outline

def Import.isRelative (i : Import) : Bool := Path.isRelativeImport i.specifier

def Parameter.fields (p : Parameter) : List String := p.destructured.map Prod.fst

def parameters (o : Outline) : List Parameter := o.functions.flatMap Function.parameters

/-- The return types that are declared and not empty. -/
def returnTypes (o : Outline) : List String :=
  o.functions.filterMap fun f => f.returnType.filter fun t => !t.isEmpty

def handledErrorTypes (o : Outline) : Names :=
  o.handlers.foldr (fun h types => h.errorTypes.union types) Names.empty

/-- The first function of that name. -/
def function? (o : Outline) (name : String) : Option Function :=
  o.functions.find? fun f => f.name == name

end Outline

end Conformance
