import Conformance.Script.Literal

/-! # The parts of the grammar

The grammar's rules refer to each other in circles. Each rule is written over a `Grammar`, which
holds the rules it refers to, and the circle is closed later by nesting depth.

* `Grammar`: the rules that others refer to.
* `Grammar.unread`: the grammar in which nothing can be read.
* `propertyName`, `initializer` and other small rules shared by the rest.
-/

namespace Conformance.Script
set_option autoImplicit false

/-- Where an expression stands. -/
structure Surroundings where
  /-- The expression may be the last one of a statement, so that a line end may end it. -/
  endsStatement : Bool
  /-- An arrow function may declare what it returns. -/
  allowsTypedArrow : Bool

namespace Surroundings

def statement : Surroundings := ⟨true, true⟩

def brackets : Surroundings := ⟨false, true⟩

end Surroundings

structure Grammar where
  /-- Elements of markup are expressions, and type assertions in angle brackets are not. -/
  hasMarkup : Bool
  /-- One expression, assignments included. -/
  expression : Surroundings → Parser Piece
  /-- The operand of a prefix operator. -/
  operand : Surroundings → Parser Piece
  /-- What can be called or constructed: a name or literal with accesses behind it. -/
  callable : Parser Piece
  pattern : Parser Piece
  type : Parser Piece
  /-- A type without operators between types. -/
  simpleType : Parser Piece
  statement : Parser Piece
  element : Parser Piece

namespace Grammar

def unread (hasMarkup : Bool) : Grammar :=
  ⟨hasMarkup, fun _ => failure, fun _ => failure, failure, failure, failure, failure, failure, failure⟩

open Script.Parser

variable (g : Grammar)

/-- Expressions with commas between them. -/
def sequence (s : Surroundings) : Parser Piece := do
  match ← separated (symbol ",") (one (g.expression s)) with
  | [p] => pure p
  | pieces => pure (Piece.node (Kind.ofName "sequence_expression") pieces)

def templateString : Parser Piece :=
  template "template_string" "template_substitution" (one (sequence g .brackets))

def computedName : Parser Piece :=
  node "computed_property_name" (between "[" "]" (one (sequence g .brackets)))

def privateName : Parser Piece := do
  let cs ← ahead
  match cs with
  | '#' :: r =>
    require (startsName r)
    take .privatePropertyIdentifier true (1 + nameLength r)
  | _ => failure

/-- The name of a property or method where it is declared. -/
def propertyName : Parser Piece :=
  name .propertyIdentifier <|> string <|> number <|> computedName g <|> privateName

/-- A block of statements. -/
def block : Parser Piece := node "statement_block" (between "\x7b" "\x7d" (many g.statement))

/-- A value behind an equals sign. -/
def initializer (s : Surroundings) : Parser (List Piece) := do
  let eq ← symbol "="
  let value ← g.expression s
  pure [eq, value.under .value]

def typeClause : Parser Piece :=
  node "type_annotation" (do
    let colon ← symbol ":"
    pure [colon, ← g.type])

def typeArguments : Parser Piece :=
  node "type_arguments" (do
    let start ← mark '<'
    let types ← separated (symbol ",") (one g.type)
    let comma ← maybe (symbol ",")
    let stop ← mark '>'
    pure (start :: types ++ comma ++ [stop]))

/-- What is passed in a call. Items may be missing between commas. -/
def argumentList : Parser Piece :=
  node "arguments" (between "(" ")" (commaList (one (spread <|> g.expression .brackets))))
where
  spread : Parser Piece :=
    node "spread_element" (do
      let dots ← symbol "..."
      pure [dots, ← g.expression .brackets])

/-- Decorators, each an at sign with what is named or called. -/
def decorators : Parser (List Piece) :=
  many (node "decorator" (do
    let sign ← symbol "@"
    let subject ← g.callable
    match ← maybe (argumentList g) with
    | [] => pure [sign, subject]
    | arguments =>
      pure [sign, Piece.node .callExpression
        (subject.under .function :: arguments.map (·.under .arguments))]))

end Grammar

end Conformance.Script
