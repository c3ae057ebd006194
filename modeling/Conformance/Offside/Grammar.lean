import Conformance.Offside.Escape
import Conformance.Offside.Token

/-! # The parts of the grammar

The grammar's rules refer to each other in circles. Each rule is written over a `Grammar`, which
holds the rules it refers to, and the circle is closed later by nesting depth.

* `Tree`, `Parser`: what is read, and readers of tokens that may fail.
* `Grammar`: the rules that others refer to.
-/

namespace Conformance.Offside
set_option autoImplicit false

/-- A tree that is read from tokens. -/
abbrev Tree : Type := Node ModuleName

/-- A reader that moves on over the tokens it reads; when it fails, nothing is moved over. -/
abbrev Parser := StateT (List Token) Option

def keywords : List String :=
  ["False", "None", "True", "and", "as", "assert", "async", "await", "break", "class", "continue",
    "def", "del", "elif", "else", "except", "finally", "for", "from", "global", "if", "import", "in",
    "is", "lambda", "nonlocal", "not", "or", "pass", "raise", "return", "try", "while", "with",
    "yield"]

namespace Parser

def require (b : Bool) : Parser PUnit := if b then pure ⟨⟩ else failure

/-- As often as `p` reads something; `fuel` bounds the number. -/
def manyUpTo {α : Type} (p : Parser α) : Nat → Parser (List α)
  | 0 => pure []
  | fuel + 1 =>
    (do
      let a ← p
      let rest ← manyUpTo p fuel
      pure (a :: rest)) <|> pure []

def many {α : Type} (p : Parser α) : Parser (List α) := do manyUpTo p (← get).length

def some1 {α : Type} (p : Parser α) : Parser (List α) := do
  let first ← p
  let rest ← many p
  pure (first :: rest)

def lift {α : Type} (o : Option α) : Parser α :=
  match o with
  | some a => pure a
  | none => failure

def peek : Parser Lexeme := do pure ((← get).head?.map Token.lexeme |>.getD .stop)

/-- The line of the token ahead. -/
def line : Parser Nat := do pure ((← get).head?.map Token.line |>.getD 0)

def skip : Parser PUnit := modify List.tail

def isOp (s : String) : Lexeme → Bool
  | .op t => s == t
  | _ => false

def isName (s : String) : Lexeme → Bool
  | .name i => s == i.text
  | _ => false

/-- The operator ahead is `s`. -/
def sees (s : String) : Parser Bool := do pure (isOp s (← peek))

/-- The word ahead is `s`. -/
def seesWord (s : String) : Parser Bool := do pure (isName s (← peek))

def op (s : String) : Parser PUnit := do
  require (← sees s)
  skip

def word (s : String) : Parser PUnit := do
  require (← seesWord s)
  skip

/-- Moves over the operator if it is ahead, and tells whether it was. -/
def takeOp (s : String) : Parser Bool := do
  if ← sees s then
    skip
    pure true
  else pure false

def takeWord (s : String) : Parser Bool := do
  if ← seesWord s then
    skip
    pure true
  else pure false

/-- A name that is not a keyword. -/
def identifier : Parser Identifier := do
  match ← peek with
  | .name i =>
    require (!keywords.contains i.text)
    skip
    pure i
  | _ => failure

/-- A name that is not a keyword, in its normal form. -/
def name : Parser String := do pure (← identifier).normal

def newline : Parser PUnit := do
  match ← peek with
  | .newline => skip
  | _ => failure

def indent : Parser PUnit := do
  match ← peek with
  | .indent => skip
  | _ => failure

def dedent : Parser PUnit := do
  match ← peek with
  | .dedent => skip
  | _ => failure

/-- Items with commas between them, and whether a comma ends the list. At least one item. -/
def commaList {α : Type} (item : Parser α) : Parser (List α × Bool) := do
  let first ← item
  let rest ← many (do
    op ","
    item)
  pure (first :: rest, ← takeOp ",")

/-- Items with commas between them and no comma at the end. -/
def separated {α : Type} (item : Parser α) : Parser (List α) := do
  let first ← item
  let rest ← many (do
    op ","
    item)
  pure (first :: rest)

/-- Fails if the operator is ahead. -/
def refuse (s : String) : Parser PUnit := do require (!(← sees s))

end Parser

structure Grammar where
  /-- A condition or an anonymous function. -/
  expression : Parser Tree
  /-- Conditions joined by `or`. -/
  disjunction : Parser Tree
  /-- A negation or comparison. -/
  inversion : Parser Tree
  /-- What can be unpacked. -/
  bitOr : Parser Tree
  /-- A signed operand. -/
  factor : Parser Tree
  /-- An atom with what is accessed or called. -/
  primary : Parser Tree
  pattern : Parser Tree
  statement : Parser (List Tree)

namespace Grammar

/-- The grammar in which nothing can be read. -/
def unread : Grammar := ⟨failure, failure, failure, failure, failure, failure, failure, failure⟩

end Grammar

end Conformance.Offside
