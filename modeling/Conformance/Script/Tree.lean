import Conformance.Text.Trim

/-! # Syntax trees of scripts

A concrete syntax tree of TypeScript or JavaScript source: every token is a node, keywords and
punctuation included.

* `Kind`, `Field`: node types and the names under which a parent holds a child; those that the
  outline asks for have constructors of their own.
* `Tree`: a node with its text and the row it starts in.
* `Tree.child?`: the first child under a field name.
* `Tree.walk`: the nodes that a walk meets, in source order. It keeps the nodes still to be met on a
  stack and does not enter nodes of the pruned kinds.
* `Tree.dotted?`: the dotted path of an identifier, a member access or a text subscript.
-/

namespace Conformance.Script
open Text
set_option autoImplicit false

inductive Kind where
  | identifier | propertyIdentifier | shorthandPropertyIdentifier | privatePropertyIdentifier
  | this | memberExpression | subscriptExpression | callExpression | binaryExpression
  | string | templateString | comment
  | arrowFunction | functionExpression | function | generatorFunction
  | functionDeclaration | generatorFunctionDeclaration | formalParameters
  | lexicalDeclaration | variableDeclaration | variableDeclarator
  | importStatement | exportStatement | catchClause
  | objectPattern | shorthandPropertyIdentifierPattern | pairPattern | objectAssignmentPattern
  | assignmentPattern | restPattern
  | async | instanceof | strictEquals | looseEquals
  | other (name : String)
  deriving DecidableEq, Repr

namespace Kind

/-- The node types with a constructor of their own. -/
def named : List (String × Kind) :=
  [("identifier", identifier), ("property_identifier", propertyIdentifier),
    ("shorthand_property_identifier", shorthandPropertyIdentifier),
    ("private_property_identifier", privatePropertyIdentifier), ("this", this),
    ("member_expression", memberExpression), ("subscript_expression", subscriptExpression),
    ("call_expression", callExpression), ("binary_expression", binaryExpression),
    ("string", string), ("template_string", templateString), ("comment", comment),
    ("arrow_function", arrowFunction), ("function_expression", functionExpression),
    ("function", function), ("generator_function", generatorFunction),
    ("function_declaration", functionDeclaration),
    ("generator_function_declaration", generatorFunctionDeclaration),
    ("formal_parameters", formalParameters), ("lexical_declaration", lexicalDeclaration),
    ("variable_declaration", variableDeclaration), ("variable_declarator", variableDeclarator),
    ("import_statement", importStatement), ("export_statement", exportStatement),
    ("catch_clause", catchClause), ("object_pattern", objectPattern),
    ("shorthand_property_identifier_pattern", shorthandPropertyIdentifierPattern),
    ("pair_pattern", pairPattern), ("object_assignment_pattern", objectAssignmentPattern),
    ("assignment_pattern", assignmentPattern), ("rest_pattern", restPattern), ("async", async),
    ("instanceof", instanceof), ("===", strictEquals), ("==", looseEquals)]

def ofName (name : String) : Kind := (named.lookup name).getD (other name)

/-- The nodes whose text counts as a name that the module mentions. -/
def isName : Kind → Bool
  | identifier | propertyIdentifier | shorthandPropertyIdentifier => true
  | _ => false

def isFunctionValue : Kind → Bool
  | arrowFunction | functionExpression | function | generatorFunction => true
  | _ => false

def isFunctionDeclaration : Kind → Bool
  | functionDeclaration | generatorFunctionDeclaration => true
  | _ => false

end Kind

inductive Field where
  | function | arguments | object | property | index | name | value | parameters | parameter
  | returnType | pattern | type | left | right | key | operator | body | source
  | other (name : String)
  deriving DecidableEq, Repr

namespace Field

def named : List (String × Field) :=
  [("function", function), ("arguments", arguments), ("object", object), ("property", property),
    ("index", index), ("name", name), ("value", value), ("parameters", parameters),
    ("parameter", parameter), ("return_type", returnType), ("pattern", pattern), ("type", type),
    ("left", left), ("right", right), ("key", key), ("operator", operator), ("body", body),
    ("source", source)]

def ofName (name : String) : Field := (named.lookup name).getD (other name)

end Field

inductive Tree where
  | node (kind : Kind) (field : Option Field) (isNamed : Bool) (text : String) (row : Nat)
      (children : List Tree)

instance : Inhabited Tree := ⟨.node (.other "") none false "" 0 []⟩

namespace Tree

def kind : Tree → Kind
  | node k _ _ _ _ _ => k

def field : Tree → Option Field
  | node _ f _ _ _ _ => f

/-- A node with a name in the grammar, as opposed to a bare token. -/
def isNamed : Tree → Bool
  | node _ _ n _ _ _ => n

def text : Tree → String
  | node _ _ _ t _ _ => t

def row : Tree → Nat
  | node _ _ _ _ r _ => r

def children : Tree → List Tree
  | node _ _ _ _ _ cs => cs

/-- The line the node starts in, counted from one. -/
def line (t : Tree) : Nat := t.row + 1

def child? (t : Tree) (f : Field) : Option Tree := t.children.find? fun c => c.field == some f

def namedChildren (t : Tree) : List Tree := t.children.filter isNamed

/-- The text of a child, empty if there is none. -/
def textAt (t : Tree) (f : Field) : String := ((t.child? f).map text).getD ""

/-! ## Walks -/

mutual

/-- How many nodes there are, the node itself among them. -/
def size : Tree → Nat
  | node _ _ _ _ _ cs => sizes cs + 1

def sizes : List Tree → Nat
  | [] => 0
  | c :: cs => size c + sizes cs

end

theorem sizes_append (l r : List Tree) : sizes (l ++ r) = sizes l + sizes r := by
  induction l with
  | nil => simp [sizes]
  | cons c l ih => simp [sizes, ih, Nat.add_assoc]

theorem size_eq (t : Tree) : t.size = sizes t.children + 1 := by
  cases t
  rw [size, children]

/-- Puts the nodes on the stack, the last of them on top. -/
def pushAll (nodes stack : List Tree) : List Tree := nodes.foldl (fun s t => t :: s) stack

theorem pushAll_reverse (nodes stack : List Tree) : pushAll nodes.reverse stack = nodes ++ stack := by
  rw [pushAll, List.foldl_flip_cons_eq_append', List.reverse_reverse]

/-- The nodes met from a stack on. The one on top is met, and unless it is pruned its children are
put on the stack, the first of them on top. -/
def walkFrom (prune : List Kind) : List Tree → List Tree
  | [] => []
  | t :: stack =>
    t :: walkFrom prune (if t.kind ∈ prune then stack else pushAll t.children.reverse stack)
termination_by stack => sizes stack
decreasing_by
  rw [sizes, size_eq]
  split
  · omega
  · rw [pushAll_reverse, sizes_append]
    omega

/-- The nodes of a tree. The root is entered whatever its kind. -/
def walk (prune : List Kind) (root : Tree) : List Tree :=
  root :: walkFrom prune (pushAll root.children.reverse [])

/-! ## Dotted paths -/

/-- The characters that enclose a text literal. -/
def quoteMarks : List Char := ['\'', '"', '\x60']

def unquote (s : String) : String := trimChars quoteMarks s

def nonempty? (s : String) : Option String := if s.isEmpty then none else some s

/-- The name behind the dot, private names included. -/
def propertyName? (children : List Tree) : Option String :=
  match children.find? fun c => c.field == some .property with
  | some c =>
    if c.kind = .propertyIdentifier || c.kind = .privatePropertyIdentifier then some c.text else none
  | none => none

/-- The key of a subscript that is a text literal. -/
def subscriptKey? (children : List Tree) : Option String :=
  match children.find? fun c => c.field == some .index with
  | some c => if c.kind = .string then nonempty? (unquote c.text) else none
  | none => none

def extend (base key : Option String) : Option String :=
  base.bind fun b => key.map fun k => b ++ "." ++ k

mutual

/-- The dotted path of a chain of names: identifiers and `this`, member accesses and subscripts by
text literals. A path is never empty. -/
def dotted? : Tree → Option String
  | node kind _ _ text _ children =>
    match kind with
    | .identifier | .this => nonempty? text
    | .memberExpression => extend (objectPath? children) (propertyName? children)
    | .subscriptExpression => extend (objectPath? children) (subscriptKey? children)
    | _ => none

/-- The dotted path of the first child that stands as the object. -/
def objectPath? : List Tree → Option String
  | [] => none
  | c :: cs => if c.field = some .object then dotted? c else objectPath? cs

end

end Tree

end Conformance.Script
