import Conformance.Contract
import Conformance.Outline
import Conformance.Settings

/-! # Rules

A rule verifies the clauses of the categories it covers, from the evidence for one unit: the source
text, and the outline where there is one.
-/

namespace Conformance
set_option autoImplicit false

structure Evidence where
  source : String
  outline : Option Outline
  settings : Settings

structure Rule where
  covers : Category → Bool
  assess : String → Category → Evidence → Assertion

namespace Rule

def assertion (text : String) (category : Category) (passed : Bool) (level : Level)
    (message : String) : Assertion :=
  { text, category, passed, level, message }

/-- An assertion that syntax settles. -/
def settled (text : String) (category : Category) (passed : Bool) (message : String) : Assertion :=
  assertion text category passed .proven message

/-- An assertion that passes and is left to a check at run time. -/
def deferred (text : String) (category : Category) (message : String) : Assertion :=
  assertion text category true .instrumented message

/-- Gives one answer to every clause of the listed categories. -/
def constant (categories : List Category) (passed : Bool) (level : Level) (message : String) :
    Rule where
  covers category := categories.contains category
  assess text category _ := assertion text category passed level message

end Rule

end Conformance
