import Conformance.Script.Tree

/-! # Building syntax trees

A tree is put together from its tokens. What stands before a token, blanks and comments, goes with
it, and becomes part of the first node in which something else stands before the token too. So a
comment is a child of the smallest node around it.

* `Piece`: a tree and what stands before it.
* `Piece.node`: the node over a row of pieces.
-/

namespace Conformance.Script
set_option autoImplicit false

inductive Trivia where
  | blank (text : String)
  | comment (tree : Tree)

structure Piece where
  lead : List Trivia
  tree : Tree

instance : Inhabited Piece := ⟨⟨[], default⟩⟩

namespace Trivia

def text : Trivia → String
  | blank s => s
  | comment t => t.text

def tree? : Trivia → Option Tree
  | blank _ => none
  | comment t => some t

end Trivia

namespace Piece

/-- The text with what stands before it. -/
def fullText (p : Piece) : String := String.join (p.lead.map Trivia.text) ++ p.tree.text

/-- The tree with the comments before it. -/
def fullTrees (p : Piece) : List Tree := p.lead.filterMap Trivia.tree? ++ [p.tree]

def kind (p : Piece) : Kind := p.tree.kind

/-- A single token. -/
def token (lead : List Trivia) (kind : Kind) (isNamed : Bool) (text : String) (row : Nat) : Piece :=
  ⟨lead, .node kind none isNamed text row []⟩

/-- The node over a row of pieces. What stands before the first stands before the node. -/
def node (kind : Kind) : List Piece → Piece
  | [] => ⟨[], .node kind none true "" 0 []⟩
  | first :: rest =>
    ⟨first.lead, .node kind none true (first.tree.text ++ String.join (rest.map fullText))
      first.tree.row (first.tree :: rest.flatMap fullTrees)⟩

/-- A node over pieces together with the comments that come before its first token. -/
def whole (kind : Kind) (pieces : List Piece) : Tree :=
  .node kind none true (String.join (pieces.map fullText)) 0 (pieces.flatMap fullTrees)

/-- The piece as what its parent holds under the field. -/
def under (f : Field) (p : Piece) : Piece :=
  match p.tree with
  | .node kind _ isNamed text row children => { p with tree := .node kind (some f) isNamed text row children }

/-- The same piece as another kind of node. -/
def renamed (kind : Kind) (p : Piece) : Piece :=
  match p.tree with
  | .node _ f _ text row children => { p with tree := .node kind f true text row children }

end Piece

end Conformance.Script
