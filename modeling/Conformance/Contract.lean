import Conformance.Clause.Category
import Conformance.Language

/-! # Contracts and their results

* `Implementation`: the text of a unit with the contract it is held to.
* `Contract`: clauses by section, declared failure modes, and advisories for human review.
* `Assertion`, `Result`: what verification says of each clause and of the unit.
* `Check`, `Plan`: the runtime checks for what was left open.
-/

namespace Conformance
set_option autoImplicit false

/-- An error type that the unit declares, and how it says it handles it. -/
structure FailureMode where
  errorType : String
  handling : String
  deriving DecidableEq

/-- A decision flagged for human review; never verified. -/
structure Advisory where
  description : String
  resolved : Bool
  deriving DecidableEq

/-- A contract. A clause is its text. -/
structure Contract where
  requires : List String
  onSuccess : List String
  onFailure : List String
  invariants : List String
  fails : List FailureMode
  advisories : List Advisory
  deriving DecidableEq

namespace Contract

def empty : Contract := ⟨[], [], [], [], [], []⟩

/-- The texts to be verified in a section: clauses, or the declared error types. -/
def texts (c : Contract) : Section → List String
  | .requires => c.requires
  | .onSuccess => c.onSuccess
  | .onFailure => c.onFailure
  | .invariants => c.invariants
  | .fails => c.fails.map FailureMode.errorType

/-- Everything to be verified, section by section. -/
def entries (c : Contract) : List (Section × String) :=
  Section.all.flatMap fun s => (c.texts s).map fun text => (s, text)

/-- How many assertions verification makes. -/
def clauseCount (c : Contract) : Nat :=
  c.requires.length + c.onSuccess.length + c.onFailure.length + c.invariants.length +
    c.fails.length

theorem length_entries (c : Contract) : c.entries.length = c.clauseCount := by
  simp [entries, clauseCount, Section.all, texts]
  omega

end Contract

/-- A unit under verification. -/
structure Implementation where
  id : String
  purpose : String
  contract : Contract
  text : String
  path : Option String
  language : Language
  deriving DecidableEq

/-- How far an assertion is settled: by syntax, by a check at run time, by generated tests, or only
by human judgment. -/
inductive Level where
  | proven | instrumented | tested | unverifiable
  deriving DecidableEq, Repr

namespace Level

def all : List Level := [proven, instrumented, tested, unverifiable]

def name : Level → String
  | proven => "PROVEN"
  | instrumented => "INSTRUMENTED"
  | tested => "TESTED"
  | unverifiable => "UNVERIFIABLE"

def ofName? (s : String) : Option Level := all.find? fun l => l.name == s

end Level

inductive Status where
  | proven | failed
  deriving DecidableEq, Repr

namespace Status

def all : List Status := [proven, failed]

def name : Status → String
  | proven => "PROVEN"
  | failed => "FAILED"

def ofName? (s : String) : Option Status := all.find? fun t => t.name == s

end Status

/-- The outcome of verifying one clause or failure mode. -/
structure Assertion where
  text : String
  category : Category
  passed : Bool
  level : Level
  message : String
  deriving DecidableEq

structure Result where
  unitId : String
  status : Status
  assertions : List Assertion
  advisories : List Advisory
  deriving DecidableEq

namespace Result

def passed (r : Result) : Bool := r.status == .proven

def failedAssertions (r : Result) : List Assertion := r.assertions.filter fun a => !a.passed

end Result

/-- Where a runtime check goes: before the unit runs or after. -/
inductive InsertionPoint where
  | pre | post
  deriving DecidableEq, Repr

namespace InsertionPoint

def all : List InsertionPoint := [pre, post]

def name : InsertionPoint → String
  | pre => "pre"
  | post => "post"

def ofName? (s : String) : Option InsertionPoint := all.find? fun p => p.name == s

end InsertionPoint

structure Check where
  text : String
  category : Category
  level : Level
  insertionPoint : InsertionPoint
  guard : String
  errorMessage : String
  deriving DecidableEq

structure Plan where
  unitId : String
  checks : List Check
  deriving DecidableEq

namespace Plan

def preChecks (p : Plan) : List Check := p.checks.filter fun c => c.insertionPoint == .pre

def postChecks (p : Plan) : List Check := p.checks.filter fun c => c.insertionPoint == .post

end Plan

end Conformance
