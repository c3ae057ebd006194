import Conformance.Script.Grammar

/-! # Patterns and signatures

* `objectPattern`, `arrayPattern`: patterns that take a value apart.
* `patternRule`: a pattern, or something that can be assigned to.
* `formalParameters`, `callSignature`: parameters with their types, and what is returned.
-/

namespace Conformance.Script.Grammar
open Script.Parser
set_option autoImplicit false

variable (g : Grammar)

/-! ## Patterns -/

/-- A pattern with a default value. -/
def withDefault (p : Parser Piece) : Parser Piece := do
  let left ← p
  (do
    let eq ← symbol "="
    let value ← g.expression .brackets
    pure (Piece.node .assignmentPattern [left.under .left, eq, value.under .right])) <|> pure left

def restPattern : Parser Piece :=
  node "rest_pattern" (do
    let dots ← symbol "..."
    pure [dots, ← g.pattern])

/-- A property of an object pattern: a name of its own, perhaps with a default value. -/
def shorthandPattern : Parser Piece := do
  let left ← name .shorthandPropertyIdentifierPattern
  (do
    let eq ← symbol "="
    let value ← g.expression .brackets
    pure (Piece.node .objectAssignmentPattern [left.under .left, eq, value.under .right])) <|> pure left

def pairPattern : Parser Piece :=
  node "pair_pattern" (do
    let key ← propertyName g
    let colon ← symbol ":"
    let value ← withDefault g g.pattern
    pure [key.under .key, colon, value.under .value])

def objectPattern : Parser Piece :=
  node "object_pattern" (between "\x7b" "\x7d"
    (commaList (one (pairPattern g <|> restPattern g <|> shorthandPattern g))))

def arrayPattern : Parser Piece :=
  node "array_pattern" (between "[" "]"
    (commaList (one (restPattern g <|> withDefault g g.pattern))))

/-- A name with accesses behind it, which can be assigned to. -/
def target : Parser Piece := do
  let word ← peekWord
  let base ← if word = "this" then take .this true 4 else name .identifier
  accesses (← get).rest.length base
where
  accesses : Nat → Piece → Parser Piece
    | 0, base => pure base
    | fuel + 1, base =>
      (do
        let dot ← symbol "."
        let property ← name .propertyIdentifier <|> privateName
        accesses fuel (Piece.node .memberExpression
          [base.under .object, dot, property.under .property])) <|>
      (do
        let start ← symbol "["
        let index ← sequence g .brackets
        let stop ← symbol "]"
        accesses fuel (Piece.node .subscriptExpression
          [base.under .object, start, index.under .index, stop])) <|>
      (do
        let bang ← symbol "!"
        accesses fuel (Piece.node (Kind.ofName "non_null_expression") [base, bang])) <|>
      pure base

def destructuring : Parser Piece := objectPattern g <|> arrayPattern g

def patternRule : Parser Piece := destructuring g <|> target g

/-! ## Parameters -/

def accessibility : Parser Piece :=
  node "accessibility_modifier" (one (oneOfWords ["public", "private", "protected"]))

/-- A word that says more about what follows, rather than being its name. -/
def modifier (p : Parser Piece) : Parser Piece := do
  let m ← p
  require (← aheadIs fun c => isNameHead c || "[\x7b#'\"*".toList.contains c || c.isDigit)
  pure m

def parameter : Parser Piece := do
  let start ← decorators g
  let modifiers ← many (modifier (accessibility <|> oneOfWords ["override", "readonly"]))
  let pattern ← restPattern g <|> g.pattern
  let mark ← maybe (symbol "?")
  let type ← maybe (typeClause g)
  let value ← orNone (initializer g .brackets)
  let kind := if mark.isEmpty then "required_parameter" else "optional_parameter"
  pure (Piece.node (Kind.ofName kind)
    (start ++ modifiers ++ [pattern.under .pattern] ++ mark ++ type.map (·.under .type) ++ value))

/-- Parameters in parentheses. None may be missing between two commas. -/
def formalParameters : Parser Piece :=
  node "formal_parameters" (between "(" ")" (orNone (do
    let items ← separated (symbol ",") (one (parameter g))
    pure (items ++ (← maybe (symbol ","))))))

def typeParameter : Parser Piece :=
  node "type_parameter" (do
    let modifiers ← many (modifier (oneOfWords ["const", "in", "out"]))
    let name ← name (Kind.ofName "type_identifier")
    let bound ← maybe (node "constraint" (do
      let keyword ← word "extends"
      pure [keyword, ← g.type]))
    let standard ← maybe (node "default_type" (do
      let eq ← symbol "="
      pure [eq, ← g.type]))
    pure (modifiers ++ [name.under .name] ++ bound ++ standard))

def typeParameters : Parser Piece :=
  node "type_parameters" (do
    let start ← mark '<'
    let items ← separated (symbol ",") (one (typeParameter g))
    let comma ← maybe (symbol ",")
    let stop ← mark '>'
    pure (start :: items ++ comma ++ [stop]))

/-! ## What is returned -/

/-- A statement about a parameter: its name, `is`, and a type. -/
def typePredicate : Parser Piece :=
  node "type_predicate" (do
    let subject ← (do
      let word ← peekWord
      if word = "this" then take .this true 4 else name .identifier)
    sameLine
    let keyword ← word "is"
    let type ← g.type
    pure [subject.under .name, keyword, type.under .type])

/-- The claim that a function returns only if something holds. -/
def assertion : Parser Piece :=
  node "asserts" (do
    let keyword ← word "asserts"
    sameLine
    let subject ← typePredicate g <|> (do
      let word ← peekWord
      if word = "this" then take .this true 4 else name .identifier)
    pure [keyword, subject])

def returned : Parser Piece := assertion g <|> typePredicate g <|> g.type

/-- The type of what is returned, behind a colon. -/
def returnClause : Parser Piece := do
  let colon ← symbol ":"
  let type ← returned g
  let kind :=
    if type.kind = Kind.ofName "asserts" then "asserts_annotation"
    else if type.kind = Kind.ofName "type_predicate" then "type_predicate_annotation"
    else "type_annotation"
  pure (Piece.node (Kind.ofName kind) [colon, type])

/-- Parameters and, if it is declared, what is returned. -/
def callSignature : Parser (List Piece) := do
  let types ← maybe (typeParameters g)
  let parameters ← formalParameters g
  let type ← maybe (returnClause g)
  pure (types ++ [parameters.under .parameters] ++ type.map (·.under .returnType))

end Conformance.Script.Grammar
