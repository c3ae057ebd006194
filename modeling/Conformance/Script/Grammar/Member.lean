import Conformance.Script.Grammar.Type

/-! # Members of objects and classes

* `object`: an object literal.
* `classBody`, `classDefinition`: classes with their methods and fields.
* `functionDefinition`: a function with its keyword.
-/

namespace Conformance.Script.Grammar
open Script.Parser
set_option autoImplicit false

variable (g : Grammar)

def spreadElement : Parser Piece := argumentList.spread g

/-! ## Object literals -/

def methodModifiers : Parser (List Piece) :=
  many (modifier (oneOfWords ["async", "get", "set", "static"] <|> symbol "*"))

/-- A pair, a method, or a name that stands for itself. -/
def objectItem : Parser Piece := do
  let modifiers ← methodModifiers
  let key ← propertyName g
  (do
    require modifiers.isEmpty
    let colon ← symbol ":"
    let value ← g.expression .brackets
    pure (Piece.node (Kind.ofName "pair") [key.under .key, colon, value.under .value])) <|>
  (do
    let signature ← callSignature g
    let body ← block g
    pure (Piece.node (Kind.ofName "method_definition")
      (modifiers ++ [key.under .name] ++ signature ++ [body.under .body]))) <|>
  (do
    require (modifiers.isEmpty && key.kind = .propertyIdentifier)
    pure (key.renamed .shorthandPropertyIdentifier))

def object : Parser Piece :=
  node "object" (between "\x7b" "\x7d" (commaList (one (spreadElement g <|> objectItem g))))

/-! ## Classes -/

def classModifiers : Parser (List Piece) :=
  many (modifier (accessibility <|>
    oneOfWords ["static", "override", "readonly", "abstract", "declare", "accessor", "async", "get", "set"]
    <|> symbol "*"))

def staticBlock : Parser Piece :=
  node "class_static_block" (do
    let keyword ← word "static"
    let body ← block g
    pure [keyword, body.under .body])

/-- A method with a body, one without, or a field, each with what ends it. -/
def classItem : Parser (List Piece) := do
  let start ← decorators g
  let modifiers ← classModifiers
  let key ← propertyName g
  let mark ← maybe (symbol "?" <|> symbol "!")
  let head := start ++ modifiers ++ [key.under .name] ++ mark
  (do
    let signature ← callSignature g
    (do
      let body ← block g
      pure [Piece.node (Kind.ofName "method_definition") (head ++ signature ++ [body.under .body])]) <|>
    (do
      let kind :=
        if modifiers.any fun m => m.kind = Kind.ofName "abstract" then "abstract_method_signature"
        else "method_signature"
      let stop ← memberEnd
      pure (Piece.node (Kind.ofName kind) (head ++ signature) :: stop))) <|>
  (do
    let type ← maybe (typeClause g)
    let value ← orNone (initializer g .statement)
    let stop ← one (symbol ",") <|> semicolon (!value.isEmpty)
    pure (Piece.node (Kind.ofName "public_field_definition")
      (head ++ type.map (·.under .type) ++ value) :: stop))

def classBody : Parser Piece :=
  node "class_body" (between "\x7b" "\x7d" (manyPieces
    (one (symbol ";") <|> one (staticBlock g) <|>
      (do
        let index ← indexSignature g
        pure (index :: (← memberEnd))) <|>
      classItem g)))

def heritage : Parser Piece :=
  node "class_heritage" (do
    let parents ← maybe (node "extends_clause" (do
      let keyword ← word "extends"
      let items ← separated (symbol ",") (do
        let parent ← g.operand .brackets
        pure (parent.under .value :: (← maybe (typeArguments g))))
      pure (keyword :: items)))
    let interfaces ← maybe (node "implements_clause" (do
      let keyword ← word "implements"
      pure (keyword :: (← separated (symbol ",") (one g.type)))))
    require (!(parents ++ interfaces).isEmpty)
    pure (parents ++ interfaces))

/-- A class. A declaration needs a name. -/
def classDefinition (needsName : Bool) : Parser (List Piece) := do
  let start ← decorators g
  let abstract_ ← maybe (word "abstract")
  let keyword ← word "class"
  let named ← maybe (do
    require !((["extends", "implements"] : List String).contains (← peekWord))
    name (Kind.ofName "type_identifier"))
  require (!(needsName && named.isEmpty))
  let types ← maybe (typeParameters g)
  let parents ← maybe (heritage g)
  let body ← classBody g
  pure (start ++ abstract_ ++ [keyword] ++ named.map (·.under .name) ++ types ++ parents ++
    [body.under .body])

/-! ## Functions -/

structure FunctionHead where
  pieces : List Piece
  isGenerator : Bool
  isNamed : Bool

/-- The keyword with what stands before it, and the name. -/
def functionHead : Parser FunctionHead := do
  let async_ ← orNone (do
    let keyword ← word "async"
    sameLine
    pure [keyword])
  let keyword ← word "function"
  let star ← maybe (symbol "*")
  let named ← maybe (name .identifier)
  pure ⟨async_ ++ [keyword] ++ star ++ named.map (·.under .name), !star.isEmpty, !named.isEmpty⟩

/-- A function as a value. -/
def functionValue : Parser Piece := do
  let head ← functionHead
  let signature ← callSignature g
  let body ← block g
  pure (Piece.node (if head.isGenerator then .generatorFunction else .functionExpression)
    (head.pieces ++ signature ++ [body.under .body]))

end Conformance.Script.Grammar
