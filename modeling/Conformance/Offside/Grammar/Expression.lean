import Conformance.Offside.Grammar.Formatted

/-! # Expressions

* `starExpressions`, `namedExpression`, `expressionRule`: expressions from the loosest on.
* `primaryRule`, `atom`: names, literals, brackets, and what is accessed or called.
* `targets`, `isTarget`: what can be assigned to.
* `parameterList`: the parameters of a function, with or without hints.
-/

namespace Conformance.Offside.Grammar
open Offside.Parser
set_option autoImplicit false

variable (g : Grammar)

/-! ## Targets -/

mutual

/-- The expression can be assigned to; a starred one too where `starred` allows it. -/
def isTarget (starred : Bool) : Tree → Bool
  | .name _ | .member _ _ | .subscript _ _ => true
  | .tuple elements => areTargets elements
  | .form .list parts => arePartTargets parts
  | .form .starred [some n] => starred && isTarget false n
  | _ => false

def areTargets : List Tree → Bool
  | [] => true
  | n :: rest => isTarget true n && areTargets rest

def arePartTargets : List (Option Tree) → Bool
  | [] => true
  | some n :: rest => isTarget true n && arePartTargets rest
  | none :: _ => false

end

/-- The expression is one place: a name, a member or a subscript. -/
def isPlace : Tree → Bool
  | .name _ | .member _ _ | .subscript _ _ => true
  | _ => false

mutual

/-- The expression can be deleted. -/
def isDeletable : Tree → Bool
  | .name _ | .member _ _ | .subscript _ _ => true
  | .tuple elements => areDeletable elements
  | .form .list parts => arePartsDeletable parts
  | _ => false

def areDeletable : List Tree → Bool
  | [] => true
  | n :: rest => isDeletable n && areDeletable rest

def arePartsDeletable : List (Option Tree) → Bool
  | [] => true
  | some n :: rest => isDeletable n && arePartsDeletable rest
  | none :: _ => false

end

/-! ## Rows of expressions -/

def starred (p : Parser Tree) : Parser Tree := do
  op "*"
  let n ← p
  pure (.form .starred [some n])

/-- A single item as itself; several ones, or one with a comma, as a tuple. -/
def row (item : Parser Tree) : Parser Tree := do
  match ← commaList item with
  | ([n], false) => pure n
  | (items, _) => pure (.tuple items)

def starExpression : Parser Tree := starred g.bitOr <|> g.expression

def starExpressions : Parser Tree := row (starExpression g)

/-- A name with the value it is given here. -/
def assignmentExpression : Parser Tree := do
  let id ← name
  op ":="
  let value ← g.expression
  pure (.form .named [some (.name id), some value])

def namedExpression : Parser Tree :=
  assignmentExpression g <|> (do
    let n ← g.expression
    refuse ":="
    pure n)

def starNamedExpression : Parser Tree := starred g.bitOr <|> namedExpression g

def yieldExpression : Parser Tree := do
  word "yield"
  if ← takeWord "from" then
    let value ← g.expression
    pure (.form .yieldFrom [some value])
  else
    let value ← optional (starExpressions g)
    pure (.form .yield [value])

def starTarget : Parser Tree := do
  let n ← starred g.primary <|> g.primary
  require (isTarget true n)
  pure n

/-- What a loop assigns to. -/
def targets : Parser Tree := row (starTarget g)

/-! ## Comprehensions -/

def comprehension : Parser Tree := do
  let isAsync ← takeWord "async"
  word "for"
  let target ← targets g
  word "in"
  let iterable ← g.disjunction
  let conditions ← many (do
    word "if"
    g.disjunction)
  pure (.form (.comprehension isAsync) (some target :: some iterable :: conditions.map some))

def comprehensions : Parser (List Tree) := some1 (comprehension g)

/-! ## Arguments -/

/-- The arguments of a call: values, then names with values; mappings that are unpacked last. -/
structure Arguments where
  values : List Tree
  keywords : List Tree

inductive Argument where
  | value (n : Tree)
  | starred (n : Tree)
  | keyword (name : String) (value : Tree)
  | unpacked (value : Tree)

def argument : Parser Argument :=
  (do
    let n ← starred g.expression
    pure (.starred n)) <|>
  (do
    op "**"
    let n ← g.expression
    pure (.unpacked n)) <|>
  (do
    let id ← name
    op "="
    let value ← g.expression
    pure (.keyword id value)) <|>
  (do
    let n ← namedExpression g
    refuse "="
    pure (.value n))

/-- How far into the order of arguments one stands. -/
inductive Stage where
  | values | keywords | unpacked
  deriving DecidableEq

/-- The arguments stand in an allowed order: no plain value behind a keyword, and nothing starred
behind an unpacked mapping. -/
def inOrder : Stage → List Argument → Bool
  | _, [] => true
  | stage, .value _ :: rest => stage = .values && inOrder stage rest
  | stage, .starred _ :: rest => stage ≠ .unpacked && inOrder stage rest
  | stage, .keyword _ _ :: rest => inOrder (if stage = .values then .keywords else stage) rest
  | _, .unpacked _ :: rest => inOrder .unpacked rest

def valueOf? : Argument → Option Tree
  | .value n | .starred n => some n
  | _ => none

def keywordOf? : Argument → Option Tree
  | .keyword id value => some (.keyword (some id) value)
  | .unpacked value => some (.keyword none value)
  | _ => none

/-- Arguments as they are passed, if their order is allowed. -/
def passed (items : List Argument) : Parser Arguments := do
  require (inOrder .values items)
  pure ⟨items.filterMap valueOf?, items.filterMap keywordOf?⟩

/-- Arguments in parentheses. -/
def arguments : Parser Arguments := do
  op "("
  if ← takeOp ")" then pure ⟨[], []⟩
  else
    let (items, _) ← commaList (argument g)
    op ")"
    passed items

/-- The arguments of a call. A single one that is a comprehension needs no parentheses of its own. -/
def callArguments : Parser Arguments := do
  op "("
  if ← takeOp ")" then pure ⟨[], []⟩
  else
    let (items, comma) ← commaList (argument g)
    match items, comma, ← takeOp ")" with
    | [.value element], false, false => do
      let generators ← comprehensions g
      op ")"
      pure ⟨[.form .generator (some element :: generators.map some)], []⟩
    | _, _, closed =>
      require closed
      passed items

/-! ## Subscripts -/

/-- An index, or the bounds of a slice. -/
def slice : Parser Tree :=
  assignmentExpression g <|> (do
    let lower ← optional g.expression
    match lower, ← takeOp ":" with
    | some n, false =>
      refuse ":="
      pure n
    | none, false => failure
    | lower, true =>
      let upper ← optional g.expression
      let step ← (do
        op ":"
        optional g.expression) <|> pure none
      pure (.form .slice [lower, upper, step]))

def subscriptIndex : Parser Tree := do
  match ← commaList (starred g.expression <|> slice g) with
  | ([.form .starred parts], false) => pure (.tuple [.form .starred parts])
  | ([n], false) => pure n
  | (items, _) => pure (.tuple items)

/-! ## Parameters -/

/-- A parameter list as it is read, from left to right. -/
structure ParameterRow where
  positionalOnly : List Tree
  positional : List Tree
  defaults : List Tree
  /-- A star has been read. -/
  starSeen : Bool
  rest : Option Tree
  keywordOnly : List Tree
  keywordDefaults : List (Option Tree)
  keywords : Option Tree

namespace ParameterRow

def empty : ParameterRow := ⟨[], [], [], false, none, [], [], none⟩

def node (r : ParameterRow) : Tree :=
  .parameters r.positionalOnly r.positional r.rest r.keywordOnly r.keywordDefaults r.keywords r.defaults

/-- A parameter behind the others; behind one with a default only such ones may follow, up to the
star. -/
def add? (r : ParameterRow) (parameter : Tree) (standard : Option Tree) : Option ParameterRow :=
  if r.keywords.isSome then none
  else if r.starSeen then
    some { r with
      keywordOnly := r.keywordOnly ++ [parameter]
      keywordDefaults := r.keywordDefaults ++ [standard] }
  else if standard.isNone && !r.defaults.isEmpty then none
  else some { r with positional := r.positional ++ [parameter], defaults := r.defaults ++ standard.toList }

/-- A slash makes the parameters before it positional-only. -/
def slash? (r : ParameterRow) : Option ParameterRow :=
  if r.positional.isEmpty || !r.positionalOnly.isEmpty || r.starSeen || r.keywords.isSome then none
  else some { r with positionalOnly := r.positional, positional := [] }

def star? (r : ParameterRow) (rest : Option Tree) : Option ParameterRow :=
  if r.starSeen || r.keywords.isSome then none else some { r with starSeen := true, rest }

def unpacked? (r : ParameterRow) (keywords : Tree) : Option ParameterRow :=
  if r.keywords.isSome then none else some { r with keywords := some keywords }

/-- A star that collects nothing needs a parameter behind it. -/
def isComplete (r : ParameterRow) : Bool :=
  !(r.starSeen && r.rest.isNone && r.keywordOnly.isEmpty)

end ParameterRow

/-- A name with its hint, if hints are allowed. -/
def parameter (hinted : Bool) (hint : Parser Tree) : Parser Tree := do
  let id ← name
  let h ← if hinted then optional (do
    op ":"
    hint) else pure none
  pure (.parameter id h)

/-- One entry of a parameter list. -/
def parameterEntry (hinted : Bool) (r : ParameterRow) : Parser ParameterRow := do
  if ← takeOp "/" then lift r.slash?
  else if ← takeOp "**" then
    let p ← parameter hinted g.expression
    lift (r.unpacked? p)
  else if ← takeOp "*" then
    let p ← optional (parameter hinted (starExpression g))
    lift (r.star? p)
  else
    let p ← parameter hinted g.expression
    let standard ← optional (do
      op "="
      g.expression)
    lift (r.add? p standard)

def parameterEntries (hinted : Bool) : Nat → ParameterRow → Parser ParameterRow
  | 0, _ => failure
  | fuel + 1, r => do
    match ← optional (parameterEntry g hinted r) with
    | none => pure r
    | some r =>
      if ← takeOp "," then parameterEntries hinted fuel r else pure r

/-- The parameters of a function. -/
def parameterList (hinted : Bool) : Parser Tree := do
  let r ← parameterEntries g hinted ((← get).length + 1) .empty
  require r.isComplete
  pure r.node

/-! ## Atoms -/

def isStarred : Tree → Bool
  | .form .starred _ => true
  | _ => false

/-- What a comprehension makes of its first part and its generators. -/
def comprehensionOf (kind : Form) (parts : List Tree) (generators : List Tree) : Parser Tree := do
  require (!parts.any isStarred)
  pure (.form kind ((parts ++ generators).map some))

/-- The items behind a first one. -/
def otherItems {α : Type} (item : Parser α) : Parser (List α) := do
  if ← takeOp "," then
    match ← optional (commaList item) with
    | some (items, _) => pure items
    | none => pure []
  else pure []

/-- What stands between parentheses: nothing, an expression, a tuple or a comprehension. -/
def parenthesized : Parser Tree := do
  op "("
  if ← takeOp ")" then pure (.tuple [])
  else if ← seesWord "yield" then
    let n ← yieldExpression g
    op ")"
    pure n
  else
    let first ← starNamedExpression g
    if ← takeOp ")" then
      require (!isStarred first)
      pure first
    else if ← sees "," then
      let others ← otherItems (starNamedExpression g)
      op ")"
      pure (.tuple (first :: others))
    else
      let generators ← comprehensions g
      op ")"
      comprehensionOf .generator [first] generators

/-- A list, or a comprehension that makes one. -/
def list : Parser Tree := do
  op "["
  if ← takeOp "]" then pure (.form .list [])
  else
    let first ← starNamedExpression g
    match ← optional (comprehensions g) with
    | some generators =>
      op "]"
      comprehensionOf .listComp [first] generators
    | none =>
      let others ← otherItems (starNamedExpression g)
      op "]"
      pure (.form .list ((first :: others).map some))

/-- A key with its value; an unpacked mapping has no key. -/
def entry : Parser (Option Tree × Tree) := do
  if ← takeOp "**" then pure (none, ← g.bitOr)
  else
    let key ← g.expression
    op ":"
    pure (some key, ← g.expression)

/-- A mapping from its entries. -/
def mappingOf (entries : List (Option Tree × Tree)) : Tree :=
  .form .dict (entries.map Prod.fst ++ entries.map fun e => some e.2)

/-- A mapping behind its first key, or a comprehension that makes one. -/
def mappingFrom (key : Tree) : Parser Tree := do
  op ":"
  let value ← g.expression
  match ← optional (comprehensions g) with
  | some generators => comprehensionOf .dictComp [key, value] generators
  | none => pure (mappingOf ((some key, value) :: (← otherItems (entry g))))

/-- A set behind its first item, or a comprehension that makes one. -/
def setFrom (first : Tree) : Parser Tree := do
  match ← optional (comprehensions g) with
  | some generators => comprehensionOf .setComp [first] generators
  | none =>
    let others ← otherItems (starNamedExpression g)
    pure (.form .set ((first :: others).map some))

/-- What stands between braces: a mapping or a set. -/
def braced : Parser Tree := do
  op "\x7b"
  let n ← (do
    if ← sees "\x7d" then pure (.form .dict [])
    else if ← sees "**" then
      let (entries, _) ← commaList (entry g)
      pure (mappingOf entries)
    else if ← sees "*" then setFrom g (← starNamedExpression g)
    else
      match ← optional (assignmentExpression g) with
      | some first => setFrom g first
      | none =>
        let first ← g.expression
        if ← sees ":" then mappingFrom g first else setFrom g first)
  op "\x7d"
  pure n

def quotation : Parser Quotation := do
  match ← get with
  | ⟨.text marks body, line⟩ :: _ =>
    skip
    pure ⟨marks, body, line⟩
  | _ => failure

/-- The expression that the tokens of a field between braces stand for. -/
def fieldValue (tokens : List Token) : Option Tree := ((starExpressions g).run tokens).map Prod.fst

def strings : Parser Tree := do
  let qs ← some1 quotation
  lift (literal? (fieldValue g) qs)

def wordAtom? (i : Identifier) : Option Tree :=
  match i.text with
  | "True" => some (.constant (.bool true))
  | "False" => some (.constant (.bool false))
  | "None" => some (.constant .none)
  | s => if keywords.contains s then none else some (.name i.normal)

def atom : Parser Tree := do
  match ← peek with
  | .name i => do
    let n ← lift (wordAtom? i)
    skip
    pure n
  | .number c => do
    skip
    pure (.constant c)
  | .text _ _ => strings g
  | .op "(" => parenthesized g
  | .op "[" => list g
  | .op "\x7b" => braced g
  | .op "..." => do
    skip
    pure (.constant .ellipsis)
  | _ => failure

/-! ## Accesses and calls -/

/-- One access or call behind an expression that starts in the given line. -/
def accessed (start : Nat) (base : Tree) : Parser Tree := do
  if ← takeOp "." then
    pure (.member base (← name))
  else if ← sees "(" then
    let a ← callArguments g
    pure (.call start base a.values a.keywords)
  else
    op "["
    let index ← subscriptIndex g
    op "]"
    pure (.subscript base index)

def accesses (start : Nat) : Nat → Tree → Parser Tree
  | 0, base => pure base
  | fuel + 1, base => (do accesses start fuel (← accessed g start base)) <|> pure base

def primaryRule : Parser Tree := do
  let start ← line
  let base ← atom g
  accesses g start (← get).length base

/-! ## Operators -/

def awaitable : Parser Tree := do
  if ← takeWord "await" then
    let n ← g.primary
    pure (.form .await [some n])
  else g.primary

def power : Parser Tree := do
  let left ← awaitable g
  if ← takeOp "**" then
    let right ← g.factor
    pure (.form (.binary .pow) [some left, some right])
  else pure left

def factorRule : Parser Tree := do
  let signs : List (String × UnaryOp) := [("+", .plus), ("-", .minus), ("~", .invert)]
  match ← peek with
  | .op s =>
    match signs.lookup s with
    | some sign => do
      skip
      let n ← g.factor
      pure (.form (.unary sign) [some n])
    | none => power g
  | _ => power g

/-- Operands joined from the left by one of the operators. -/
def joined (ops : List (String × BinaryOp)) (operand : Parser Tree) : Parser Tree := do
  let first ← operand
  let rest ← many (do
    match ← peek with
    | .op s => do
      let o ← lift (ops.lookup s)
      skip
      pure (o, ← operand)
    | _ => failure)
  pure (rest.foldl (fun left r => .form (.binary r.1) [some left, some r.2]) first)

def term : Parser Tree :=
  joined [("*", .mult), ("/", .div), ("//", .floorDiv), ("%", .mod), ("@", .matMult)] g.factor

def sum : Parser Tree := joined [("+", .add), ("-", .sub)] (term g)

def shift : Parser Tree := joined [("<<", .lShift), (">>", .rShift)] (sum g)

def bitAnd : Parser Tree := joined [("&", .bitAnd)] (shift g)

def bitXor : Parser Tree := joined [("^", .bitXor)] (bitAnd g)

def bitOrRule : Parser Tree := joined [("|", .bitOr)] (bitXor g)

def comparisonSigns : List (String × CompareOp) :=
  [("==", .eq), ("!=", .notEq), ("<", .lt), ("<=", .ltE), (">", .gt), (">=", .gtE)]

def compareOp : Parser CompareOp := do
  match ← peek with
  | .op s => do
    let o ← lift (comparisonSigns.lookup s)
    skip
    pure o
  | .name ⟨"in", _⟩ => do
    skip
    pure .isIn
  | .name ⟨"not", _⟩ => do
    skip
    word "in"
    pure .notIn
  | .name ⟨"is", _⟩ => do
    skip
    pure (if ← takeWord "not" then .isNot else .is)
  | _ => failure

def comparison : Parser Tree := do
  let left ← g.bitOr
  match ← many (do
      let o ← compareOp
      pure (o, ← g.bitOr)) with
  | [] => pure left
  | rest => pure (.form (.compare (rest.map Prod.fst)) (some left :: rest.map fun r => some r.2))

def inversionRule : Parser Tree := do
  if ← takeWord "not" then
    let n ← g.inversion
    pure (.form (.unary .not) [some n])
  else comparison g

/-- Operands joined by a word. -/
def joinedBy (w : String) (o : BooleanOp) (operand : Parser Tree) : Parser Tree := do
  let first ← operand
  match ← many (do
      word w
      operand) with
  | [] => pure first
  | rest => pure (.form (.boolean o) ((first :: rest).map some))

def disjunctionRule : Parser Tree := joinedBy "or" .or (joinedBy "and" .and g.inversion)

def lambda : Parser Tree := do
  word "lambda"
  let parameters ← parameterList g false
  op ":"
  let body ← g.expression
  pure (.form .lambda [some parameters, some body])

def expressionRule : Parser Tree :=
  lambda g <|> (do
    let yes ← g.disjunction
    if ← takeWord "if" then
      let condition ← g.disjunction
      word "else"
      let no ← g.expression
      pure (.form .conditional [some condition, some yes, some no])
    else pure yes)

end Conformance.Offside.Grammar
