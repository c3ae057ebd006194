import Conformance.Text.DottedName
import Conformance.Text.Keyword

/-! # Exposure and memory clauses

An exposure clause forbids that a value is shown: a negation, then words, blanks and commas, then a
verb of showing, as in `user.password_hash never exposed`.

* `isExposure`: the clause has such a part.
* `exposureSubject?`: the dotted name that the clause protects.
* `isMemory`: the clause speaks of how long a value stays in memory.
-/

namespace Conformance.Clause
open Text
set_option autoImplicit false

def negations : List String := ["never", "not", "no"]

def exposureVerbs : List String :=
  ["exposed", "logged", "printed", "leaked", "disclosed", "revealed"]

def memoryWords : List String :=
  ["in memory", "held", "retained", "zeroed", "wiped", "lifetime"]

/-- Words that name no value when the protected one is looked for. -/
def fillers : List String :=
  ["never", "not", "no", "is", "are", "be", "must", "should", "will", "shall", "the", "a", "an",
    "any", "ever"] ++ exposureVerbs

/-- May stand between the negation and the verb. -/
def isGap (c : Char) : Bool := isWordChar c || isSpace c || c == ','

/-- What follows the first verb that only gap characters precede; `joined` tells that a word
character stands before the text. -/
def afterVerb? : Bool → List Char → Option (List Char)
  | _, [] => none
  | joined, c :: r =>
    match (if joined then none else keyword? exposureVerbs (c :: r)) with
    | some rest => some rest
    | none => if isGap c then afterVerb? (isWordChar c) r else none

/-- What follows the first negation with its verb; `joined` as before. -/
def afterExposureFrom? : Bool → List Char → Option (List Char)
  | _, [] => none
  | joined, c :: r =>
    match (if joined then none else (keyword? negations (c :: r)).bind (afterVerb? true)) with
    | some rest => some rest
    | none => afterExposureFrom? (isWordChar c) r

/-- What the clause says behind the first negation and its verb, if it has them. -/
def afterExposure? (clause : List Char) : Option (List Char) := afterExposureFrom? false clause

def isExposure (clause : String) : Bool := (afterExposure? clause.toList).isSome

def isFiller (name : List Char) : Bool := fillers.contains (String.ofList (name.map lowerAscii))

/-- The first dotted name up to the verb that is no filler. -/
def exposureSubject? (clause : String) : Option String :=
  (afterExposure? clause.toList).bind fun rest =>
    let upToVerb := clause.toList.take (clause.toList.length - rest.length)
    ((dottedNames upToVerb).find? fun name => !isFiller name).map String.ofList

def isMemory (clause : String) : Bool := hasKeyword memoryWords clause

end Conformance.Clause
