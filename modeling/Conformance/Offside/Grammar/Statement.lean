import Conformance.Offside.Grammar.Pattern

/-! # Statements

Statements of one line may share it, with semicolons between them; a compound statement has blocks.
The words that are no part of a statement's expressions are not kept.

* `simpleStatements`: the statements of a line.
* `block`: the statements that belong to a compound statement.
* `statementRule`: a compound statement, or the statements of a line.
-/

namespace Conformance.Offside.Grammar
open Offside.Parser
set_option autoImplicit false

variable (g : Grammar)

def statementNode (parts : List Tree) : Tree := .form .statement (parts.map some)

/-! ## Assignments -/

def assignedValue : Parser Tree := do
  if ← seesWord "yield" then yieldExpression g else starExpressions g

/-- The values of a chain of assignments, each but the last of which is assigned to. -/
def assignmentChain : Nat → Parser (List Tree)
  | 0 => failure
  | fuel + 1 => do
    let n ← assignedValue g
    if ← takeOp "=" then
      require (isTarget true n)
      let rest ← assignmentChain fuel
      pure (n :: rest)
    else pure [n]

def augmentedSigns : List String :=
  ["+=", "-=", "*=", "@=", "/=", "%=", "&=", "|=", "^=", "<<=", ">>=", "**=", "//="]

/-- A hint for a place, perhaps with a value for the place. -/
def hinted (place : Tree) : Parser Tree := do
  op ":"
  require (isPlace place)
  let hint ← g.expression
  if ← takeOp "=" then pure (statementNode [place, hint, ← assignedValue g])
  else pure (statementNode [place, hint])

/-- An expression, or an assignment of one of the kinds. -/
def expressionStatement : Parser Tree := do
  let first ← assignedValue g
  match ← peek with
  | .op "=" =>
    skip
    require (isTarget true first)
    let rest ← assignmentChain g (← get).length
    pure (statementNode (first :: rest))
  | .op ":" => hinted g first
  | .op s =>
    if augmentedSigns.contains s then
      skip
      require (isPlace first)
      let value ← assignedValue g
      pure (statementNode [first, value])
    else pure (statementNode [first])
  | _ => pure (statementNode [first])

/-! ## Imports -/

def moduleName : Parser ModuleName := do
  let first ← identifier
  let rest ← many (do
    op "."
    identifier)
  pure ⟨first, rest⟩

/-- Another name that is given, if there is one. -/
def otherName : Parser PUnit := do
  if ← takeWord "as" then
    let _ ← name

def importModules : Parser Tree := do
  let names ← separated (do
    let n ← moduleName
    otherName
    pure n)
  pure (.importModules names)

/-- The dots before a module's name; an ellipsis is three of them. -/
def importLevel : Parser Nat := do
  let dots ← many (do
    if ← takeOp "." then pure 1
    else
      op "..."
      pure 3)
  pure (dots.foldl (· + ·) 0)

def importedName : Parser PUnit := do
  let _ ← name
  otherName

def importFrom : Parser Tree := do
  let level ← importLevel
  let module ← optional moduleName
  require (0 < level || module.isSome)
  word "import"
  if ← takeOp "*" then pure ()
  else if ← takeOp "(" then
    let _ ← commaList importedName
    op ")"
  else
    let _ ← separated importedName
  pure (.importFrom module level)

/-! ## Statements of one line -/

def deleted : Parser Tree := do
  let n ← g.primary
  require (isDeletable n)
  pure n

def raised : Parser Tree := do
  match ← optional g.expression with
  | none => pure (statementNode [])
  | some n =>
    if ← takeWord "from" then pure (statementNode [n, ← g.expression])
    else pure (statementNode [n])

def asserted : Parser Tree := do
  let n ← g.expression
  if ← takeOp "," then pure (statementNode [n, ← g.expression])
  else pure (statementNode [n])

/-- A statement that begins with the given word, behind that word. -/
def wordStatement? : String → Option (Parser Tree)
  | "return" => some (do pure (statementNode (← optional (starExpressions g)).toList))
  | "import" => some importModules
  | "from" => some importFrom
  | "raise" => some (raised g)
  | "pass" | "break" | "continue" => some (pure (statementNode []))
  | "del" => some (do pure (statementNode (← commaList (deleted g)).1))
  | "assert" => some (asserted g)
  | "global" | "nonlocal" => some (do
    let _ ← separated name
    pure (statementNode []))
  | _ => none

def simpleStatement : Parser Tree := do
  match ← peek with
  | .name i =>
    match wordStatement? g i.text with
    | some rest =>
      skip
      rest
    | none => expressionStatement g
  | _ => expressionStatement g

/-- The statements of a line. -/
def simpleStatements : Parser (List Tree) := do
  let first ← simpleStatement g
  let rest ← many (do
    op ";"
    simpleStatement g)
  let _ ← takeOp ";"
  newline
  pure (first :: rest)

/-! ## Blocks -/

/-- The statements of a block, or those behind the colon. -/
def block : Parser (List Tree) := do
  op ":"
  (do
    newline
    indent
    let statements ← some1 g.statement
    dedent
    pure statements.flatten) <|> simpleStatements g

/-- A block behind a word, if the word is there. -/
def blockAfter (w : String) : Parser (List Tree) := do
  if ← takeWord w then block g else pure []

/-! ## Compound statements -/

def whileStatement : Parser Tree := do
  let test ← namedExpression g
  let body ← block g
  let others ← blockAfter g "else"
  pure (statementNode (test :: (body ++ others)))

/-- What follows `if`; behind `elif` stands a statement of its own. -/
def ifStatement : Nat → Parser Tree
  | 0 => failure
  | fuel + 1 => do
    let test ← namedExpression g
    let body ← block g
    let others ← (do
      if ← takeWord "elif" then pure [← ifStatement fuel] else blockAfter g "else")
    pure (statementNode (test :: (body ++ others)))

def forStatement : Parser Tree := do
  let target ← targets g
  word "in"
  let iterable ← starExpressions g
  let body ← block g
  let others ← blockAfter g "else"
  pure (statementNode (target :: iterable :: (body ++ others)))

/-- A context that is entered, perhaps with a place for it. -/
def context : Parser Tree := do
  let n ← g.expression
  if ← takeWord "as" then pure (statementNode [n, ← starTarget g])
  else pure (statementNode [n])

/-- What follows `with`. Parentheses may stand around all contexts. -/
def withStatement : Parser Tree := do
  let contexts ← (do
      op "("
      let (contexts, _) ← commaList (context g)
      op ")"
      require (← sees ":")
      pure contexts) <|> separated (context g)
  let body ← block g
  pure (statementNode (contexts ++ body))

/-- A handler; `isGroup` tells that it handles groups of errors. -/
def handler (isGroup : Bool) : Parser Tree := do
  let start ← line
  word "except"
  require ((← takeOp "*") == isGroup)
  let type ← optional g.expression
  require (type.isSome || !isGroup)
  if type.isSome then otherName
  let body ← block g
  pure (.handler start type body)

/-- What follows `try`: handlers of one kind, a final block, or both. -/
def tryStatement : Parser Tree := do
  let body ← block g
  match ← some1 (handler g false) <|> many (handler g true) with
  | [] =>
    word "finally"
    let final ← block g
    pure (statementNode (body ++ final))
  | handlers =>
    let others ← blockAfter g "else"
    let final ← blockAfter g "finally"
    pure (statementNode (body ++ handlers ++ others ++ final))

/-! ## Cases -/

def caseBlock : Parser Tree := do
  word "case"
  let pattern ← patterns g
  let guard ← (do
    if ← takeWord "if" then pure [← namedExpression g] else pure [])
  let body ← block g
  pure (statementNode (pattern :: (guard ++ body)))

/-- What is compared with the cases: an expression, or a tuple without parentheses. -/
def subject : Parser Tree := do
  match ← commaList (starNamedExpression g) with
  | ([n], false) =>
    require (!isStarred n)
    pure n
  | (items, _) => pure (.tuple items)

/-- What follows `match`; elsewhere this word is a name. -/
def matchStatement : Parser Tree := do
  word "match"
  let n ← subject g
  op ":"
  newline
  indent
  let cases ← some1 (caseBlock g)
  dedent
  pure (statementNode (n :: cases))

/-! ## Definitions -/

def function (start : Nat) (isAsync : Bool) (decorators : List Tree) : Parser Tree := do
  word "def"
  let id ← name
  op "("
  let parameters ← parameterList g true
  op ")"
  let returns ← (do
    if ← takeOp "->" then some <$> g.expression else pure none)
  let body ← block g
  pure (.function start isAsync id parameters body decorators returns)

def classDefinition (decorators : List Tree) : Parser Tree := do
  let _ ← name
  let bases ← (do
    if ← sees "(" then arguments g else pure ⟨[], []⟩)
  let body ← block g
  pure (statementNode (bases.values ++ bases.keywords ++ body ++ decorators))

def decorator : Parser Tree := do
  op "@"
  let n ← namedExpression g
  newline
  pure n

/-- A function or a class with its decorators. -/
def decorated : Parser Tree := do
  let decorators ← many (decorator g)
  let start ← line
  if ← takeWord "class" then classDefinition g decorators
  else
    let isAsync ← takeWord "async"
    function g start isAsync decorators

/-! ## The statement -/

def asyncStatement : Parser Tree := do
  word "async"
  if ← takeWord "for" then forStatement g
  else
    word "with"
    withStatement g

/-- A compound statement, told by its first word. -/
def compoundStatement : Parser Tree := do
  if ← takeWord "if" then ifStatement g (← get).length
  else if ← takeWord "for" then forStatement g
  else if ← takeWord "while" then whileStatement g
  else if ← takeWord "try" then tryStatement g
  else if ← takeWord "with" then withStatement g
  else asyncStatement g <|> decorated g <|> matchStatement g

def statementRule : Parser (List Tree) :=
  (do pure [← compoundStatement g]) <|> simpleStatements g

end Conformance.Offside.Grammar
