import Conformance.Script.Grammar.Member

/-! # Expressions

* `primary`: names, literals, functions, and expressions in brackets.
* `callableRule`, `accessed`: accesses and calls behind a primary expression.
* `operandRule`: what stands between operators.
* `Suffix.climb`: operators in the order of their precedence.
* `expressionRule`: one expression, without commas.
-/

namespace Conformance.Script.Grammar
open Script.Parser
set_option autoImplicit false

variable (g : Grammar)

/-! ## Arrow functions -/

/-- What an arrow function does: a block, or an expression. -/
def arrowBody (s : Surroundings) : Parser (List Piece) := do
  let arrow ← symbol "=>"
  let body ← if ← aheadIs (· == '\x7b') then block g else g.expression s
  pure [arrow, body.under .body]

/-- Parameters of an arrow function: a bare name, or a signature. -/
def arrowParameters (s : Surroundings) : Parser (List Piece) :=
  (do
    let parameter ← name .identifier
    pure [parameter.under .parameter]) <|>
  (do
    let signature ← callSignature g
    require (s.allowsTypedArrow || !signature.any fun p => p.tree.field == some .returnType)
    pure signature) <|>
  (do
    let types ← maybe (typeParameters g)
    let parameters ← formalParameters g
    pure (types ++ [parameters.under .parameters]))

def arrowFunction (s : Surroundings) : Parser Piece :=
  node "arrow_function" (do
    let parameters ← arrowParameters g s
    pure (parameters ++ (← arrowBody g s)))

def asyncArrowFunction (s : Surroundings) : Parser Piece :=
  node "arrow_function" (do
    let keyword ← word "async"
    sameLine
    let parameters ← arrowParameters g s
    pure (keyword :: parameters ++ (← arrowBody g s)))

/-! ## Primary expressions -/

def parenthesized : Parser Piece :=
  node "parenthesized_expression" (between "(" ")" (do
    let inner ← sequence g .brackets
    pure (inner :: (← maybe (typeClause g)))))

def array : Parser Piece :=
  node "array" (between "[" "]" (commaList (one (spreadElement g <|> g.expression .brackets))))

def metaProperty (keyword property : String) : Parser Piece :=
  node "meta_property" (do
    let k ← word keyword
    let dot ← symbol "."
    pure [k, dot, ← word property])

def newExpression : Parser Piece :=
  node "new_expression" (do
    let keyword ← word "new"
    let constructor_ ← g.callable
    let types ← orNone (do
      let types ← typeArguments g
      require (← aheadIs (· == '('))
      pure [types])
    let arguments ← maybe (argumentList g)
    pure (keyword :: constructor_ :: types ++ arguments.map (·.under .arguments)))

/-- Words that are expressions of their own. -/
def constantWords : List String := ["super", "null", "true", "false", "undefined"]

/-- Words that start an expression only together with what follows. -/
def operatorWords : List String := ["typeof", "void", "delete", "await", "yield"]

def primaryWord (s : Surroundings) (w : String) : Parser Piece := do
  if w = "function" then functionValue g
  else if w = "class" then node "class" (classDefinition g false)
  else if w = "new" then metaProperty "new" "target" <|> newExpression g
  else if w = "import" then
    metaProperty "import" "meta" <|> (do
      let keyword ← take (Kind.ofName w) true w.length
      require (← aheadIs fun c => c == '(' || c == '.')
      pure keyword)
  else if w = "this" || constantWords.contains w then take (Kind.ofName w) true w.length
  else do
    require (!w.isEmpty && !operatorWords.contains w)
    (do
      require (w == "async")
      functionValue g <|> asyncArrowFunction g s) <|> arrowFunction g s <|> name .identifier

def primary (s : Surroundings) : Parser Piece := do
  match ← ahead with
  | '(' :: _ => arrowFunction g s <|> parenthesized g
  | '[' :: _ => array g
  | '\x7b' :: _ => object g
  | '"' :: _ | '\'' :: _ => string
  | '\x60' :: _ => templateString g
  | '/' :: _ => regex
  | '<' :: _ => arrowFunction g s <|> g.element
  | '@' :: _ => node "class" (classDefinition g false)
  | '#' :: _ => privateName
  | '.' :: _ => number
  | c :: _ => if c.isDigit then number else do primaryWord g s (← peekWord)
  | [] => failure

/-! ## Accesses and calls -/

/-- One access behind an expression: a member, a subscript, or the claim that it is there. -/
def access (base : Piece) : Parser Piece :=
  (do
    let dot ← symbol "." <|> node "optional_chain" (one (symbol "?."))
    let property ← name .propertyIdentifier <|> privateName
    pure (Piece.node .memberExpression [base.under .object, dot, property.under .property])) <|>
  (do
    let chain ← maybe (node "optional_chain" (one (symbol "?.")))
    let start ← symbol "["
    let index ← sequence g .brackets
    let stop ← symbol "]"
    pure (Piece.node .subscriptExpression
      ([base.under .object] ++ chain ++ [start, index.under .index, stop]))) <|>
  (do
    sameLine
    let bang ← symbol "!"
    pure (Piece.node (Kind.ofName "non_null_expression") [base, bang]))

/-- May stand behind a function whose type arguments are given without a call. -/
def endsInstantiation (c : Char) : Bool := ")],;:\x7d".toList.contains c

/-- A call behind an expression, or type arguments alone. -/
def call (base : Piece) : Parser Piece := do
  let chain ← maybe (symbol "?.")
  let types ← orNone (do
    require (Text.headIs (· == '<') (← ahead))
    let types ← typeArguments g
    let cs ← ahead
    require (cs.isEmpty || Text.headIs (fun c => c == '(' || c == '\x60' || endsInstantiation c) cs)
    pure [types])
  (do
    let arguments ← argumentList g <|> templateString g
    pure (Piece.node .callExpression
      ([base.under .function] ++ chain ++ types ++ [arguments.under .arguments]))) <|>
  (do
    require (!types.isEmpty)
    pure (Piece.node (Kind.ofName "instantiation_expression") (base :: types)))

def accesses : Nat → Piece → Parser Piece
  | 0, base => pure base
  | fuel + 1, base => (do accesses fuel (← access g base)) <|> pure base

/-- A primary expression with accesses, but no calls, behind it. -/
def callableRule : Parser Piece := do
  let base ← primary g .brackets
  accesses g (← get).rest.length base

def accessesAndCalls : Nat → Piece → Parser Piece
  | 0, base => pure base
  | fuel + 1, base => (do accessesAndCalls fuel (← access g base <|> call g base)) <|> pure base

/-- An arrow function ends with its body, unless that is a block. -/
def isClosed (p : Piece) : Bool :=
  p.kind ≠ .arrowFunction || p.tree.text.endsWith "\x7d"

def accessed (s : Surroundings) : Parser Piece := do
  let base ← primary g s
  if isClosed base then accessesAndCalls g (← get).rest.length base else pure base

/-! ## Assignments -/

def isTarget (k : Kind) : Bool :=
  [.identifier, .memberExpression, .subscriptExpression].contains k ||
    ["parenthesized_expression", "non_null_expression", "undefined"].any fun s => k = Kind.ofName s

def updates : List String :=
  ["+=", "-=", "*=", "/=", "%=", "^=", "&=", "|=", ">>=", ">>>=", "<<=", "**=", "&&=", "||=", "??="]

def assignmentTo (s : Surroundings) (left : Piece) : Parser Piece := do
  let op ← peekOperator
  require (op = "=" || updates.contains op)
  let sign ← symbol op
  let right ← g.expression s
  if op = "=" then
    pure (Piece.node (Kind.ofName "assignment_expression")
      [left.under .left, sign, right.under .right])
  else
    pure (Piece.node (Kind.ofName "augmented_assignment_expression")
      [left.under .left, sign.under .operator, right.under .right])

/-- An assignment that takes the value apart. -/
def destructuringAssignment (s : Surroundings) : Parser Piece := do
  let left ← destructuring g
  require ((← peekOperator) == "=")
  assignmentTo g s left

/-- Something accessed, counted up or down, or assigned to. -/
def assigned (s : Surroundings) : Parser Piece :=
  destructuringAssignment g s <|> (do
    let base ← accessed g s
    (do
      require (isTarget base.kind)
      assignmentTo g s base) <|>
    (do
      sameLine
      let sign ← symbol "++" <|> symbol "--"
      pure (Piece.node (Kind.ofName "update_expression") [base, sign])) <|>
    pure base)

/-! ## Prefix operators -/

def prefixed (kind : String) (s : Surroundings) (op : Parser Piece) : Parser Piece :=
  node kind (do
    let sign ← op
    pure [sign.under .operator, ← g.operand s])

def typeAssertion (s : Surroundings) : Parser Piece :=
  node "type_assertion" (do
    require (!g.hasMarkup)
    let types ← typeArguments g
    pure [types, ← g.operand s])

def operandRule (s : Surroundings) : Parser Piece := do
  let op ← peekOperator
  let w ← peekWord
  if ["!", "~", "+", "-"].contains op then prefixed g "unary_expression" s (symbol op)
  else if op = "++" || op = "--" then prefixed g "update_expression" s (symbol op)
  else if ["typeof", "void", "delete"].contains w then prefixed g "unary_expression" s (word w)
  else if w = "await" then
    node "await_expression" (do
      let keyword ← word w
      pure [keyword, ← g.operand s])
  else assigned g s <|> typeAssertion g s

/-! ## Operators between operands -/

/-- How strongly an operator binds, and whether it groups from the right. -/
def precedence? (op : String) : Option (Nat × Bool) :=
  if op = "**" then some (12, true)
  else if ["*", "/", "%"].contains op then some (11, false)
  else if ["+", "-"].contains op then some (10, false)
  else if ["<<", ">>", ">>>"].contains op then some (9, false)
  else if ["<", "<=", ">", ">=", "instanceof", "in"].contains op then some (8, false)
  else if ["==", "!=", "===", "!=="].contains op then some (7, false)
  else if op = "&" then some (6, false)
  else if op = "^" then some (5, false)
  else if op = "|" then some (4, false)
  else if op = "&&" then some (3, false)
  else if op = "||" then some (2, false)
  else if op = "??" then some (1, false)
  else none

/-- An operator with its right side. -/
structure Suffix where
  level : Nat
  fromRight : Bool
  /-- The kind of node that it makes. -/
  kind : Kind
  operator : Piece
  right : Piece

namespace Suffix

/-- Type claims bind as comparisons do, and have a type on the right. -/
def isClaim (x : Suffix) : Bool := x.kind ≠ .binaryExpression

def join (left : Piece) (x : Suffix) (right : Piece) : Piece :=
  if x.isClaim then Piece.node x.kind [left, x.operator, right]
  else Piece.node x.kind [left.under .left, x.operator.under .operator, right.under .right]

/-- Joins the operators that bind at least as strongly as `least`; gives the others back. -/
def climb : Nat → Nat → Piece → List Suffix → Piece × List Suffix
  | 0, _, left, rest => (left, rest)
  | _, _, left, [] => (left, [])
  | fuel + 1, least, left, x :: rest =>
    if x.level < least then (left, x :: rest)
    else if x.isClaim then climb fuel least (join left x x.right) rest
    else
      let (right, rest) := climb fuel (if x.fromRight then x.level else x.level + 1) x.right rest
      climb fuel least (join left x right) rest

end Suffix

def operatorSuffix (s : Surroundings) : Parser Suffix := do
  let op ← peekOperator
  let op ← if op.isEmpty then peekWord else pure op
  match precedence? op with
  | some (level, fromRight) =>
    let sign ← take (Kind.ofName op) false op.length
    pure ⟨level, fromRight, .binaryExpression, sign, ← g.operand s⟩
  | none => failure

/-- The claim that an expression has a type. -/
def claimSuffix (s : Surroundings) : Parser Suffix := do
  let w ← peekWord
  require (w = "as" || w = "satisfies")
  if s.endsStatement then sameLine
  let keyword ← word w
  let type ← word "const" <|> g.type
  pure ⟨8, false, Kind.ofName (w ++ "_expression"), keyword, type⟩

def operation (s : Surroundings) : Parser Piece := do
  let first ← g.operand s
  let rest ← many (operatorSuffix g s <|> claimSuffix g s)
  pure (Suffix.climb (2 * rest.length + 1) 0 first rest).1

/-- A question mark that does not mark something as optional. -/
def questionMark : Parser Piece := do
  let sign ← symbol "?"
  require (!(← aheadIs fun c => c == ':' || c == ')' || c == ','))
  pure sign

/-- A choice by a condition. An arrow function in its first branch is read without a type for what
it returns if the colon belongs to the choice. -/
def conditional (s : Surroundings) : Parser Piece := do
  let condition ← operation g s
  (do
    let question ← questionMark
    let branch (typed : Bool) : Parser (List Piece) := do
      let consequence ← g.expression ⟨false, typed⟩
      pure [consequence, ← symbol ":"]
    let first ← branch true <|> branch false
    let alternative ← g.expression s
    pure (Piece.node (Kind.ofName "ternary_expression")
      ([condition, question] ++ first ++ [alternative]))) <|>
  pure condition

def yieldExpression (s : Surroundings) : Parser Piece :=
  node "yield_expression" (do
    let keyword ← word "yield"
    let value ← orNone (do
      sameLine
      let star ← maybe (symbol "*")
      pure (star ++ [← g.expression s]))
    pure (keyword :: value))

def expressionRule (s : Surroundings) : Parser Piece := yieldExpression g s <|> conditional g s

end Conformance.Script.Grammar
