import Conformance.Script.Tree
import Conformance.Outline

/-! # Outlines of scripts

* `Script.callSite`, `handler`, `requiredSpecifier?`, `sourceSpecifier?`: what a call, an error handler and an import tell.
* `Findings.add`: what one node more shows.
* `Script.functions`: the functions declared, or bound to a variable, at top level.
* `Script.outline`: what the nodes outside parameter lists show, met in source order. Parameter lists
  are signatures and show nothing.
-/

namespace Conformance.Script
open Text
set_option autoImplicit false

/-- The text of a type annotation without its leading colon. -/
def typeText (typed : Tree) : String :=
  let s := trim typed.text
  match s.toList with
  | ':' :: rest => trim (String.ofList rest)
  | _ => s

/-! ## Calls -/

/-- What one node of an argument list adds to the names of a call: a name itself, a path with its
last segment. -/
def argumentNames (t : Tree) : List String :=
  if t.kind.isName then [t.text]
  else if t.kind = .memberExpression || t.kind = .subscriptExpression then
    match t.dotted? with
    | some path => [path, lastSegment path]
    | none => []
  else []

def callee (call : Tree) : String :=
  match call.child? .function with
  | some f => f.dotted?.getD f.text
  | none => ""

def callSite (call : Tree) : Outline.CallSite where
  callee := callee call
  line := call.line
  arguments := Names.ofList
    (match call.child? .arguments with
      | some arguments => (arguments.walk []).flatMap argumentNames
      | none => [])

/-! ## Error handlers -/

/-- The error type of `e.name === "NetworkError"` and the like. -/
def literalType? (member literal : Option Tree) : Option String :=
  match member, literal with
  | some m, some l =>
    if m.kind = .memberExpression && (l.kind = .string || l.kind = .templateString) &&
        ["name", "code", "type"].contains (m.textAt .property) then
      some (Tree.unquote l.text)
    else none
  | _, _ => none

/-- The error types that a comparison in a handler tests for. -/
def testedTypes (t : Tree) : List String :=
  if t.kind ≠ .binaryExpression then []
  else
    let left := t.child? .left
    let right := t.child? .right
    match (t.child? .operator).map Tree.kind with
    | some .instanceof => ((right.bind Tree.dotted?).map lastSegment).toList
    | some .strictEquals | some .looseEquals =>
      (literalType? left right).toList ++ (literalType? right left).toList
    | _ => []

/-- The annotated type of a catch parameter, unless it says nothing. -/
def caughtType (clause : Tree) : List String :=
  match (clause.child? .type).map typeText with
  | some s => if s.isEmpty || s = "unknown" || s = "any" then [] else [s]
  | none => []

def handler (clause : Tree) : Outline.Handler where
  line := clause.line
  errorTypes := Names.ofList (caughtType clause ++
    match clause.child? .body with
    | some body => (body.walk []).flatMap testedTypes
    | none => [])

/-! ## Imports -/

/-- The text that a call of `require` is given first. -/
def requiredSpecifier? (call : Tree) : Option String :=
  if callee call = "require" then
    ((call.child? .arguments).bind fun a => a.namedChildren.head?).bind fun first =>
      if first.kind = .string then some (Tree.unquote first.text) else none
  else none

/-- The text that an import statement, or an export from another module, names its source by. -/
def sourceSpecifier? (statement : Tree) : Option String :=
  (statement.child? .source).map fun s => Tree.unquote s.text

/-! ## What the nodes show -/

/-- What the nodes met so far have shown. -/
structure Findings where
  identifiers : Names
  memberPaths : Names
  calls : List Outline.CallSite
  handlers : List Outline.Handler
  imports : List Outline.Import

namespace Findings

def empty : Findings := ⟨.empty, .empty, [], [], []⟩

def addIdentifier (found : Findings) (name : String) : Findings :=
  { found with identifiers := found.identifiers.insert name }

def addMemberPath (found : Findings) (path : String) : Findings :=
  { found with memberPaths := found.memberPaths.insert path }

def addCall (found : Findings) (call : Tree) : Findings :=
  { found with calls := found.calls ++ [callSite call] }

def addHandler (found : Findings) (clause : Tree) : Findings :=
  { found with handlers := found.handlers ++ [handler clause] }

/-- Adds the import that is specified, if one is. -/
def addImport (found : Findings) (specifier : Option String) : Findings :=
  { found with imports := found.imports ++ specifier.toList.map fun s => ⟨s, none⟩ }

/-- What one node more shows. -/
def add (found : Findings) (t : Tree) : Findings :=
  match t.kind with
  | .identifier | .propertyIdentifier | .shorthandPropertyIdentifier => found.addIdentifier t.text
  | .memberExpression =>
    match t.dotted? with
    | some path => found.addMemberPath path
    | none => found
  | .subscriptExpression =>
    match t.dotted? with
    | some path => (found.addMemberPath path).addIdentifier (lastSegment path)
    | none => found
  | .callExpression => (found.addCall t).addImport (requiredSpecifier? t)
  | .catchClause => found.addHandler t
  | .importStatement | .exportStatement => found.addImport (sourceSpecifier? t)
  | _ => found

end Findings

/-! ## Functions -/

/-- The field and the local name that one property of an object pattern pairs. -/
def destructuredPair? (property : Tree) : Option (String × String) :=
  match property.kind with
  | .shorthandPropertyIdentifierPattern => some (property.text, property.text)
  | .pairPattern =>
    let key := property.textAt .key
    let value := (property.child? .value).bind fun v =>
      if v.kind = .assignmentPattern then v.child? .left else some v
    match value with
    | some v => some (key, if v.kind = .identifier then v.text else key)
    | none => some (key, key)
  | .objectAssignmentPattern =>
    let name := property.textAt .left
    some (name, name)
  | _ => none

/-- The pattern of a parameter, without a default value and without the dots of a rest. -/
def barePattern (parameter : Tree) : Tree :=
  let pattern := (parameter.child? .pattern).getD parameter
  let pattern :=
    if pattern.kind = .assignmentPattern then (pattern.child? .left).getD pattern else pattern
  if pattern.kind = .restPattern then (pattern.namedChildren.head?).getD pattern else pattern

def parameter (t : Tree) : Outline.Parameter :=
  let pattern := barePattern t
  { name := pattern.text
    typeHint := (t.child? .type).map typeText
    destructured :=
      if pattern.kind = .objectPattern then pattern.namedChildren.filterMap destructuredPair? else [] }

/-- The parameters in parentheses, or the single bare one of an arrow function. -/
def parametersOf (function : Tree) : List Outline.Parameter :=
  match function.child? .parameters with
  | some list => (list.namedChildren.filter fun p => p.kind ≠ .comment).map parameter
  | none => ((function.child? .parameter).map fun p => ⟨p.text, none, []⟩).toList

def signature (name : String) (function : Tree) : Outline.Function where
  name := name
  line := function.line
  parameters := parametersOf function
  returnType := (function.child? .returnType).map typeText
  isAsync := function.children.any fun c => c.kind = .async

/-- The function that a declarator binds to its name. -/
def boundFunction? (declarator : Tree) : Option Outline.Function :=
  if declarator.kind = .variableDeclarator then
    (declarator.child? .value).bind fun value =>
      if value.kind.isFunctionValue then some (signature (declarator.textAt .name) value) else none
  else none

def declaredFunctions (declaration : Tree) : List Outline.Function :=
  if declaration.kind.isFunctionDeclaration then
    [signature (declaration.textAt .name) declaration]
  else if declaration.kind = .lexicalDeclaration || declaration.kind = .variableDeclaration then
    declaration.namedChildren.filterMap boundFunction?
  else []

/-- The declarations of a top-level statement: those that it exports, or itself. -/
def declarations (statement : Tree) : List Tree :=
  if statement.kind = .exportStatement then
    statement.namedChildren.filter fun c => c.kind ≠ .comment
  else [statement]

def functions (root : Tree) : List Outline.Function :=
  (root.namedChildren.flatMap declarations).flatMap declaredFunctions

/-! ## The outline -/

/-- What a tree shows. `hasError` tells that the source it was read from has a syntax error. -/
def outline (root : Tree) (hasError : Bool) : Outline :=
  let found := (root.walk [.formalParameters]).foldl Findings.add Findings.empty
  { language := "typescript"
    functions := functions root
    identifiers := found.identifiers
    memberPaths := found.memberPaths
    calls := found.calls
    handlers := found.handlers
    imports := found.imports
    clean := !hasError }

/-- A tree with an error is outlined only if errors are to be recovered from. -/
def outline? (recover : Bool) (root : Tree) (hasError : Bool) : Option Outline :=
  if hasError && !recover then none else some (outline root hasError)

end Conformance.Script
