import Conformance.Offside.Writing
import Conformance.Outline

/-! # Outlines of indentation-structured modules

* `Offside.calls`, `handlers`, `imports`, `identifiers`, `memberPaths`: what the nodes of a module
  show. Nodes are met level by level; calls and handlers are then put in the order of their lines.
* `Offside.functions`: the functions defined at top level.
* `Offside.outline`: all of it.
-/

namespace Conformance.Offside
open Text
set_option autoImplicit false

variable {ν : Type}

/-! ## Calls -/

/-- What one node of an argument adds to the names of a call: a name itself, a path with its last
segment, or the last name of an attribute whose base has no path. -/
def argumentNames : Node ν → List String
  | .name id => [id]
  | .member value attr =>
    match (Node.member value attr).dotted? with
    | some path => [path, lastSegment path]
    | none => [attr]
  | .subscript value slice =>
    match (Node.subscript value slice).dotted? with
    | some path => [path, lastSegment path]
    | none => []
  | _ => []

/-- The value of a keyword argument. -/
def keywordValue? : Node ν → Option (Node ν)
  | .keyword _ value => some value
  | _ => none

/-- The values that a call passes, positional ones first. -/
def passedValues (args keywords : List (Node ν)) : List (Node ν) :=
  args ++ keywords.filterMap keywordValue?

def callee (func : Node ν) : String := func.dotted?.getD func.source

def callSite? : Node ν → Option Outline.CallSite
  | .call line func args keywords =>
    some {
      callee := callee func
      line
      arguments := Names.ofList
        ((passedValues args keywords).flatMap fun v => v.preorder.flatMap argumentNames) }
  | _ => none

/-- The call sites in the order of their lines; those of one line stay in the order of the
nodes. -/
def calls (nodes : List (Node ν)) : List Outline.CallSite :=
  (nodes.filterMap callSite?).mergeSort fun a b => a.line ≤ b.line

/-! ## Names -/

def identifierTexts : Node ν → List String
  | .name id => [id]
  | .member _ attr => [attr]
  | .subscript value slice => ((Node.subscript value slice).dotted?.map lastSegment).toList
  | _ => []

def identifiers (nodes : List (Node ν)) : Names := Names.ofList (nodes.flatMap identifierTexts)

def memberPath? : Node ν → Option String
  | .member value attr => (Node.member value attr).dotted?
  | .subscript value slice => (Node.subscript value slice).dotted?
  | _ => none

def memberPaths (nodes : List (Node ν)) : Names := Names.ofList (nodes.filterMap memberPath?)

/-! ## Error handlers -/

mutual

/-- The error types that an expression names: those of a tuple, or the last segment of a path. -/
def namedTypes : Node ν → List String
  | .tuple elements => namedTypesOf elements
  | .name id => ((Node.name id : Node ν).dotted?.map lastSegment).toList
  | .member value attr => ((Node.member value attr).dotted?.map lastSegment).toList
  | .subscript value slice => ((Node.subscript value slice).dotted?.map lastSegment).toList
  | _ => []

def namedTypesOf : List (Node ν) → List String
  | [] => []
  | n :: rest => namedTypes n ++ namedTypesOf rest

end

/-- The types that an instance test in a handler asks for. -/
def testedTypes : Node ν → List String
  | .call _ (.name "isinstance") [_, types] _ => namedTypes types
  | _ => []

def handler? : Node ν → Option Outline.Handler
  | .handler line type body =>
    some {
      line
      errorTypes := Names.ofList
        ((type.map namedTypes).getD [] ++ body.flatMap fun s => s.preorder.flatMap testedTypes) }
  | _ => none

def handlers (nodes : List (Node ν)) : List Outline.Handler :=
  (nodes.filterMap handler?).mergeSort fun a b => a.line ≤ b.line

/-! ## Imports -/

/-- What a node imports; leading dots stand for the packages around the module. -/
def specifiers [ToString ν] : Node ν → List String
  | .importModules names => names.map toString
  | .importFrom module level =>
    [String.ofList (List.replicate level '.') ++ (module.map toString).getD ""]
  | _ => []

def imports [ToString ν] (nodes : List (Node ν)) : List Outline.Import :=
  (nodes.flatMap specifiers).map fun s => ⟨s, none⟩

/-! ## Functions -/

def parameter? : Node ν → Option Outline.Parameter
  | .parameter name hint => some ⟨name, hint.map Node.source, []⟩
  | _ => none

/-- The parameters of a signature: positional, keyword-only, then the two that collect the rest. -/
def parametersOf : Node ν → List Outline.Parameter
  | .parameters positionalOnly positional rest keywordOnly _ keywords _ =>
    (positionalOnly ++ positional ++ keywordOnly ++ rest.toList ++ keywords.toList).filterMap
      parameter?
  | _ => []

def function? : Node ν → Option Outline.Function
  | .function line isAsync name parameters _ _ returns =>
    some ⟨name, line, parametersOf parameters, returns.map Node.source, isAsync⟩
  | _ => none

def functions (m : Module ν) : List Outline.Function := m.body.filterMap function?

/-! ## The outline -/

def outline [ToString ν] (m : Module ν) : Outline :=
  let nodes := m.nodes
  { language := "python"
    functions := functions m
    identifiers := identifiers nodes
    memberPaths := memberPaths nodes
    calls := calls nodes
    handlers := handlers nodes
    imports := imports nodes
    clean := true }

end Conformance.Offside
