import Conformance.Text.Trim

/-! # Sections and categories

A clause stands in a section of its contract. The section, and for `requires` also the first word,
give its category, which decides the rule that verifies it.
-/

namespace Conformance
open Text
set_option autoImplicit false

/-- The sections of a contract whose entries are verified. -/
inductive Section where
  | requires | onSuccess | onFailure | invariants | fails
  deriving DecidableEq, Repr

inductive Category where
  | inputPrecondition | systemPrecondition | precondition
  | successGuarantee | failureGuarantee | invariant | failureMode
  deriving DecidableEq, Repr

namespace Section

def all : List Section := [requires, onSuccess, onFailure, invariants, fails]

def name : Section → String
  | requires => "requires"
  | onSuccess => "on_success"
  | onFailure => "on_failure"
  | invariants => "invariants"
  | fails => "fails"

end Section

namespace Category

def all : List Category :=
  [inputPrecondition, systemPrecondition, precondition, successGuarantee, failureGuarantee,
    invariant, failureMode]

def name : Category → String
  | inputPrecondition => "input_precondition"
  | systemPrecondition => "system_precondition"
  | precondition => "precondition"
  | successGuarantee => "success_guarantee"
  | failureGuarantee => "failure_guarantee"
  | invariant => "invariant"
  | failureMode => "failure_mode"

def ofName? (s : String) : Option Category := all.find? fun c => c.name == s

/-- Checked before the unit runs. -/
def isPrecondition : Category → Bool
  | inputPrecondition | systemPrecondition | precondition => true
  | _ => false

end Category

/-- The text, leading blanks apart, starts with the given characters. -/
def Clause.opensWith (start clause : String) : Bool :=
  (after? start.toList (clause.toList.dropWhile isSpace)).isSome

/-- The category of a clause in a section. -/
def Clause.category (clause : String) : Section → Category
  | .requires =>
    if Clause.opensWith "input." clause then .inputPrecondition
    else if Clause.opensWith "system." clause then .systemPrecondition
    else .precondition
  | .onSuccess => .successGuarantee
  | .onFailure => .failureGuarantee
  | .invariants => .invariant
  | .fails => .failureMode

end Conformance
