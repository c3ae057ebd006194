import Conformance.Rule.Basic
import Conformance.Clause.Exposure
import Conformance.Call.Sink
import Conformance.Call.Safe

/-! # Invariants

An exposure clause is settled by the calls that its name reaches: by those of the outline if the
module was read without a syntax error, else by the argument lists in the text. Other invariants
are left to run time.
-/

namespace Conformance.Rule
open Text
set_option autoImplicit false

/-- The verdict from the calls of a cleanly read module. -/
def assessExposureInCalls (text : String) (category : Category) (name : String)
    (settings : Settings) (calls : List Outline.CallSite) : Assertion :=
  let uses := calls.filter fun c => c.arguments.contains name
  match uses.find? fun c => Call.isSinkCallee c.callee settings.logSinks with
  | some c =>
    settled text category false
      ("'" ++ name ++ "' passed to " ++ c.callee ++ "() on line " ++ toString c.line)
  | none =>
    if uses.any fun c => Call.isSafeCallee c.callee settings.safeCalls then
      settled text category true
        ("'" ++ name ++ "' only used in comparison or hashing calls")
    else settled text category true ("'" ++ name ++ "' not passed to any logging call")

/-- The verdict from the text alone. -/
def assessExposureInText (text : String) (category : Category) (name : String)
    (settings : Settings) (source : String) : Assertion :=
  if Call.logsWord source name settings.logSinks then
    settled text category false ("'" ++ name ++ "' passed to a logging call")
  else if !containsWord source name then
    settled text category true ("'" ++ name ++ "' not referenced in implementation")
  else if Call.onlyInSafeCalls source name settings.safeCalls then
    settled text category true ("'" ++ name ++ "' only used in comparison or hashing calls")
  else
    deferred text category
      ("'" ++ name ++ "' referenced without a semantic model, checked at runtime")

def assessExposure (text : String) (category : Category) (name : String) (evidence : Evidence) :
    Assertion :=
  match evidence.outline.filter fun o => o.clean with
  | some o => assessExposureInCalls text category name evidence.settings o.calls
  | none => assessExposureInText text category name evidence.settings evidence.source

def assessInvariant (text : String) (category : Category) (evidence : Evidence) : Assertion :=
  if Clause.isExposure text then
    match Clause.exposureSubject? text with
    | some subject => assessExposure text category (lastSegment subject) evidence
    | none => deferred text category "no sensitive identifier named, checked at runtime"
  else if Clause.isMemory text then
    deferred text category "memory lifetime cannot be checked syntactically"
  else deferred text category "not statically provable, checked at runtime"

def invariant : Rule where
  covers category := category == .invariant
  assess := assessInvariant

end Conformance.Rule
