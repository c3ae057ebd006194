import Conformance.Offside.Grammar.Statement

/-! # Reading modules

* `Grammar.ofDepth`: the grammar for sources nested up to a depth.
* `Module.read?`: the module that a source stands for, if it has no syntax error.
-/

namespace Conformance.Offside
set_option autoImplicit false

/-- The grammar whose rules may refer to each other `depth` times in a row. Each level is made when a
rule is used. -/
def Grammar.ofDepth : Nat → Grammar
  | 0 => .unread
  | depth + 1 => {
      expression := fun ts => (ofDepth depth).expressionRule ts
      disjunction := fun ts => (ofDepth depth).disjunctionRule ts
      inversion := fun ts => (ofDepth depth).inversionRule ts
      bitOr := fun ts => (ofDepth depth).bitOrRule ts
      factor := fun ts => (ofDepth depth).factorRule ts
      primary := fun ts => (ofDepth depth).primaryRule ts
      pattern := fun ts => (ofDepth depth).patternRule ts
      statement := fun ts => (ofDepth depth).statementRule ts }

/-- Nothing but the end is ahead. -/
def atStop : List Token → Bool
  | [⟨.stop, _⟩] => true
  | _ => false

/-- The module that a source stands for. -/
def Module.read? (source : String) : Option (Module ModuleName) := do
  let tokens ← Token.ofText? source
  let g := Grammar.ofDepth (8 * source.length + 8)
  let (statements, rest) ← (Parser.many g.statement).run tokens
  if atStop rest then some ⟨statements.flatten⟩ else none

end Conformance.Offside
