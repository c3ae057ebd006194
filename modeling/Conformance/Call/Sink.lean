import Conformance.Call.Argument

/-! # Log sinks

A sink is a callee that logs or prints. It is named by the root of the callee: `console.log` and
`self.logger.info` belong to the sinks `console` and `logger`, `Math.log` does not belong to `log`.

* `isSinkCallee`: for a callee known from a syntax tree.
* `logsWord`: for source text alone: an argument list of a sink call mentions the word.
-/

namespace Conformance.Call
open Text
set_option autoImplicit false

/-- The receivers that carry a logger as an attribute. -/
def receivers : List (List Char) := [['s', 'e', 'l', 'f', '.'], ['t', 'h', 'i', 's', '.'],
  ['c', 'l', 's', '.']]

/-- The text behind a leading receiver, if there is one. -/
def afterReceiver? (text : List Char) : Option (List Char) :=
  receivers.findSome? fun receiver => after? receiver text

/-- The callee is the sink or extends it by further segments. -/
def extendsSink (callee sink : List Char) : Bool :=
  match after? sink callee with
  | some [] => true
  | some (c :: _) => c == '.'
  | none => false

def isSinkCallee (callee : String) (sinks : List String) : Bool :=
  let bare := (afterReceiver? callee.toList).getD callee.toList
  sinks.any fun sink => extendsSink bare sink.toList

/-! ## In source text -/

/-- Drops the longest run of name characters and of dots that a name character follows. -/
def dropRun : List Char → List Char
  | [] => []
  | c :: r =>
    if isNameChar c then dropRun r
    else if c == '.' && headIs isNameChar r then dropRun r
    else c :: r

/-- Drops the dotted segments at the head of the text. -/
def dropSegments (text : List Char) : List Char :=
  match text with
  | '.' :: r => if headIs isNameChar r then dropRun r else text
  | _ => text

/-- What follows the opening parenthesis of a call whose callee starts with a sink. A macro mark
`!` may stand before the parenthesis. -/
def afterSinkHead? (sinks : List (List Char)) (text : List Char) : Option (List Char) :=
  sinks.findSome? fun sink =>
    (after? sink text).bind fun rest =>
      match dropSegments rest with
      | '!' :: r => afterOpening? r
      | r => afterOpening? r

def sinkCall? (sinks : List (List Char)) (text : List Char) : Option (List Char) :=
  ((afterReceiver? text).bind (afterSinkHead? sinks)).or (afterSinkHead? sinks text)

/-- Neither a name nor a dotted path may run into a sink call from the left. -/
def joinsSink (c : Char) : Bool := isNameChar c || c == '.'

/-- A sink call of the text has the word in its argument list. -/
def logsWord (text word : String) (sinks : List String) : Bool :=
  !sinks.isEmpty && !word.isEmpty &&
    (argumentLists joinsSink (sinkCall? (longestFirst sinks)) text.toList).any fun a =>
      hasWord word.toList false a.text

end Conformance.Call
