import Conformance.Call.Argument

/-! # Safe calls

A safe call consumes its arguments without exposing them (comparison, hashing). It is named by the
last segment of its callee.

* `isSafeCallee`: for a callee known from a syntax tree.
* `onlyInSafeCalls`: for source text alone: the word occurs, and each occurrence lies in the
  argument list of a safe call.
-/

namespace Conformance.Call
open Text
set_option autoImplicit false

def isSafeCallee (callee : String) (names : List String) : Bool :=
  names.contains (lastSegment callee)

/-- What follows the opening parenthesis of a call of one of the names. -/
def safeCall? (names : List (List Char)) (text : List Char) : Option (List Char) :=
  names.findSome? fun name => (after? name text).bind afterOpening?

def onlyInSafeCalls (text word : String) (names : List String) : Bool :=
  let positions := wordPositions word.toList text.toList
  let lists := argumentLists isNameChar (safeCall? (longestFirst names)) text.toList
  !names.isEmpty && !word.isEmpty && !positions.isEmpty &&
    positions.all fun pos => lists.any fun a => a.holds pos

end Conformance.Call
