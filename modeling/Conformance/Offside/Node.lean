import Conformance.Text.Trim

/-! # Syntax trees of indentation-structured modules

An abstract syntax tree of Python source. The kinds of node that the outline asks for have
constructors of their own; every other one is a `form` with its parts in source order, where an
optional part may be missing.

* `Node.children`: the nodes directly below a node, in the order of its fields.
* `Node.preorder`: a node with all nodes below it.
* `Node.levels`: the nodes of a module, level by level.
* `Node.dotted?`: the dotted path of a name, a member or a text subscript.
-/

namespace Conformance.Offside
set_option autoImplicit false

inductive Constant where
  | none
  | bool (b : Bool)
  | int (n : Int)
  /-- A floating-point number, as it is written in messages. -/
  | float (text : String)
  /-- An imaginary number, as it is written in messages. -/
  | imaginary (text : String)
  /-- A text; `marked` tells that it was written with the `u` mark. -/
  | str (s : String) (marked : Bool)
  | bytes (b : List UInt8)
  | ellipsis

inductive BooleanOp where
  | and | or
  deriving DecidableEq

inductive BinaryOp where
  | add | sub | mult | matMult | div | mod | lShift | rShift | bitOr | bitXor | bitAnd | floorDiv
  | pow
  deriving DecidableEq

inductive UnaryOp where
  | invert | not | plus | minus
  deriving DecidableEq

inductive CompareOp where
  | eq | notEq | lt | ltE | gt | gtE | is | isNot | isIn | notIn
  deriving DecidableEq

/-- The kind of a form, with what decides how it is written. Statements and their parts, which are
never written, share one kind. -/
inductive Form where
  | statement
  | boolean (op : BooleanOp)
  /-- Target and value. -/
  | named
  | binary (op : BinaryOp)
  | unary (op : UnaryOp)
  /-- Parameters and body. -/
  | lambda
  /-- Test, value if true, value if false. -/
  | conditional
  /-- The keys, missing for an unpacked mapping, and then as many values. -/
  | dict
  | set
  | list
  /-- The element and the generators. -/
  | listComp | setComp | generator
  /-- Key, value and the generators. -/
  | dictComp
  | await | yieldFrom
  /-- The value may be missing. -/
  | yield
  /-- The left operand, then one operand for each operator. -/
  | compare (ops : List CompareOp)
  /-- The value and the format, which may be missing. -/
  | formatted (conversion : Option Char)
  /-- The pieces of a formatted text. -/
  | joined
  | starred
  /-- Lower bound, upper bound and step, each of which may be missing. -/
  | slice
  /-- Target, iterable and conditions. -/
  | comprehension (isAsync : Bool)
  deriving DecidableEq

/-- A tree in which import statements name modules by values of a type: by texts unless told
otherwise. -/
inductive Node (ν : Type := String) where
  | name (id : String)
  | member (value : Node ν) (attr : String)
  | subscript (value slice : Node ν)
  | constant (c : Constant)
  | tuple (elements : List (Node ν))
  | call (line : Nat) (func : Node ν) (args keywords : List (Node ν))
  /-- A keyword argument, without a name for an unpacked mapping. -/
  | keyword (name : Option String) (value : Node ν)
  | handler (line : Nat) (type : Option (Node ν)) (body : List (Node ν))
  | importModules (names : List ν)
  | importFrom (module : Option ν) (level : Nat)
  | function (line : Nat) (isAsync : Bool) (name : String) (parameters : Node ν)
      (body decorators : List (Node ν)) (returns : Option (Node ν))
  | parameters (positionalOnly positional : List (Node ν)) (rest : Option (Node ν))
      (keywordOnly : List (Node ν)) (keywordDefaults : List (Option (Node ν)))
      (keywords : Option (Node ν)) (defaults : List (Node ν))
  | parameter (name : String) (hint : Option (Node ν))
  | form (kind : Form) (parts : List (Option (Node ν)))

variable {ν : Type}

instance : Inhabited (Node ν) := ⟨.constant .none⟩

namespace Node

/-- The nodes directly below, in the order of the fields. -/
def children : Node ν → List (Node ν)
  | name _ | constant _ | importModules _ | importFrom _ _ => []
  | member value _ => [value]
  | subscript value slice => [value, slice]
  | tuple elements => elements
  | call _ func args keywords => func :: (args ++ keywords)
  | keyword _ value => [value]
  | handler _ type body => type.toList ++ body
  | function _ _ _ signature body decorators returns =>
    signature :: (body ++ decorators ++ returns.toList)
  | parameters positionalOnly positional rest keywordOnly keywordDefaults keywords defaults =>
    positionalOnly ++ positional ++ rest.toList ++ keywordOnly ++ keywordDefaults.filterMap id ++
      keywords.toList ++ defaults
  | parameter _ hint => hint.toList
  | form _ parts => parts.filterMap id

theorem sizeOf_lt_of_mem_toList {n : Node ν} {o : Option (Node ν)} (h : n ∈ o.toList) :
    sizeOf n < sizeOf o := by
  cases o with
  | none => simp at h
  | some m => simp at h; subst h; simp

theorem sizeOf_lt_of_mem_filterMap {n : Node ν} {l : List (Option (Node ν))}
    (h : n ∈ l.filterMap id) : sizeOf n < sizeOf l := by
  have h' : some n ∈ l := by simpa using h
  have := List.sizeOf_lt_of_mem h'
  simp at this
  omega

theorem sizeOf_child {n c : Node ν} (h : c ∈ n.children) : sizeOf c < sizeOf n := by
  cases n with
  | name | constant | importModules | importFrom => simp [children] at h
  | member => simp [children] at h; subst h; simp only [member.sizeOf_spec]; omega
  | keyword => simp [children] at h; subst h; simp only [keyword.sizeOf_spec]; omega
  | subscript => simp [children] at h; rcases h with rfl | rfl <;> simp <;> omega
  | tuple =>
    simp only [children] at h
    have := List.sizeOf_lt_of_mem h; simp; omega
  | call _ f a k =>
    simp only [children, List.mem_cons, List.mem_append] at h
    rcases h with rfl | h | h
    · simp; omega
    · have := List.sizeOf_lt_of_mem h; simp; omega
    · have := List.sizeOf_lt_of_mem h; simp; omega
  | handler _ t b =>
    simp only [children, List.mem_append] at h
    rcases h with h | h
    · have := sizeOf_lt_of_mem_toList h; simp; omega
    · have := List.sizeOf_lt_of_mem h; simp; omega
  | function _ _ _ p b d r =>
    simp only [children, List.mem_cons, List.mem_append] at h
    rcases h with rfl | (h | h) | h
    · simp; omega
    · have := List.sizeOf_lt_of_mem h; simp; omega
    · have := List.sizeOf_lt_of_mem h; simp; omega
    · have := sizeOf_lt_of_mem_toList h; simp; omega
  | parameters =>
    simp only [children, List.mem_append] at h
    rcases h with (((((h | h) | h) | h) | h) | h) | h
    · have := List.sizeOf_lt_of_mem h; simp; omega
    · have := List.sizeOf_lt_of_mem h; simp; omega
    · have := sizeOf_lt_of_mem_toList h; simp; omega
    · have := List.sizeOf_lt_of_mem h; simp; omega
    · have := sizeOf_lt_of_mem_filterMap h; simp; omega
    · have := sizeOf_lt_of_mem_toList h; simp; omega
    · have := List.sizeOf_lt_of_mem h; simp; omega
  | parameter _ a => have := sizeOf_lt_of_mem_toList (by simpa only [children] using h); simp; omega
  | form => have := sizeOf_lt_of_mem_filterMap (by simpa only [children] using h); simp; omega

/-- The node and all nodes below it, parents before children. -/
def preorder (n : Node ν) : List (Node ν) :=
  n :: n.children.attach.flatMap fun c => preorder c.1
termination_by sizeOf n
decreasing_by exact sizeOf_child c.2

/-- The greatest number of steps down from the node. -/
def height (n : Node ν) : Nat :=
  n.children.attach.foldl (fun h c => max h (height c.1 + 1)) 0
termination_by sizeOf n
decreasing_by exact sizeOf_child c.2

/-- The nodes, then the nodes directly below them, and so on for `depth` levels. -/
def levels : Nat → List (Node ν) → List (Node ν)
  | 0, _ => []
  | depth + 1, nodes => nodes ++ levels depth (nodes.flatMap children)

/-- Parts that a form cannot do without. -/
def given (nodes : List (Node ν)) : List (Option (Node ν)) := nodes.map some

/-! ## Dotted paths -/

def nonempty? (s : String) : Option String := if s.isEmpty then none else some s

/-- The text that a subscript is taken by. -/
def textKey? : Node ν → Option String
  | constant (.str s _) => some s
  | _ => none

/-- The dotted path of a chain of names, members and subscripts by text. A path is never empty,
but a segment may be. -/
def dotted? : Node ν → Option String
  | name id => nonempty? id
  | member value attr => (dotted? value).map fun base => base ++ "." ++ attr
  | subscript value slice =>
    (dotted? value).bind fun base => (textKey? slice).map fun key => base ++ "." ++ key
  | _ => none

end Node

/-- A module is its statements. -/
structure Module (ν : Type := String) where
  body : List (Node ν)

namespace Module

/-- All nodes below the module, level by level. -/
def nodes (m : Module ν) : List (Node ν) :=
  Node.levels (m.body.foldl (fun h n => max h (n.height + 1)) 0) m.body

end Module

end Conformance.Offside
