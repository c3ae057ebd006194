import Conformance.Script.Grammar.Expression
import Conformance.Script.Grammar.Markup
import Conformance.Script.Grammar.Statement

/-! # Reading scripts

* `Grammar.ofDepth`: the grammar for sources nested up to a depth.
* `Script.read`: the tree of a source, and whether the source has a syntax error.
-/

namespace Conformance.Script
set_option autoImplicit false

/-- The grammar whose rules may refer to each other `depth` times in a row. Each level is made when a
rule is used. -/
def Grammar.ofDepth (hasMarkup : Bool) : Nat → Grammar
  | 0 => .unread hasMarkup
  | depth + 1 => {
      hasMarkup
      expression := fun s cur => (ofDepth hasMarkup depth).expressionRule s cur
      operand := fun s cur => (ofDepth hasMarkup depth).operandRule s cur
      callable := fun cur => (ofDepth hasMarkup depth).callableRule cur
      pattern := fun cur => (ofDepth hasMarkup depth).patternRule cur
      type := fun cur => (ofDepth hasMarkup depth).typeRule cur
      simpleType := fun cur => (ofDepth hasMarkup depth).simpleTypeRule cur
      statement := fun cur => (ofDepth hasMarkup depth).statementRule cur
      element := fun cur => (ofDepth hasMarkup depth).elementRule cur }

/-- The tree of a source, up to the first statement that cannot be read, and whether there is such
a statement. -/
def read (hasMarkup : Bool) (source : String) : Tree × Bool :=
  let cs := source.toList
  let g := Grammar.ofDepth hasMarkup (8 * cs.length + 8)
  match (Parser.many g.statement).run ⟨cs, 0⟩ with
  | some (pieces, cur) =>
    let (lead, stop) := cur.gap
    let comments := lead.filterMap fun t => t.tree?.map fun c => ⟨[], c⟩
    (Piece.whole (Kind.ofName "program") (pieces ++ comments), !stop.rest.isEmpty)
  | none => (Piece.whole (Kind.ofName "program") [], true)

end Conformance.Script
