import Conformance.Script.Grammar.Pattern

/-! # Types

* `typeRule`: a type with unions, intersections and conditions.
* `simpleTypeRule`: a type without operators between types.
* `objectType`: the members of an object or interface.
-/

namespace Conformance.Script.Grammar
open Script.Parser
set_option autoImplicit false

variable (g : Grammar)

def typeWords : List String :=
  ["any", "number", "boolean", "string", "symbol", "void", "unknown", "never", "object"]

def literalWords : List String := ["null", "undefined", "true", "false"]

/-! ## Names -/

/-- Names with dots between them; each dot makes a node over what stands before it. The last one is
built by `last`, those before by `inner`. -/
def nestedFrom (inner last : Piece → Piece → Piece → Piece) :
    Piece → List (Piece × Piece) → Piece
  | base, [] => base
  | base, [(dot, part)] => last base dot part
  | base, (dot, part) :: rest => nestedFrom inner last (inner base dot part) rest

def memberOf (base dot part : Piece) : Piece :=
  Piece.node .memberExpression [base.under .object, dot, (part.renamed .propertyIdentifier).under .property]

def nestedName (base dot part : Piece) : Piece :=
  Piece.node (Kind.ofName "nested_identifier")
    [base.under .object, dot, (part.renamed .propertyIdentifier).under .property]

def dottedParts : Parser (Piece × List (Piece × Piece)) := do
  let first ← name .identifier
  let rest ← many (do
    let dot ← symbol "."
    pure (dot, ← name .identifier))
  pure (first, rest)

/-- A name, or names with dots between them. -/
def nestedIdentifier : Parser Piece := do
  let (first, rest) ← dottedParts
  pure (nestedFrom memberOf nestedName first rest)

/-- The name of a type, perhaps inside modules. -/
def typeName : Parser Piece := do
  let (first, rest) ← dottedParts
  match rest.getLast? with
  | none => pure (first.renamed (Kind.ofName "type_identifier"))
  | some (dot, last) =>
    let module := nestedFrom memberOf nestedName first rest.dropLast
    pure (Piece.node (Kind.ofName "nested_type_identifier")
      [module, dot, (last.renamed (Kind.ofName "type_identifier")).under .name])

/-- A named type with its arguments. -/
def genericType (base : Piece) : Parser Piece := do
  match ← maybe (typeArguments g) with
  | [] => pure base
  | arguments => pure (Piece.node (Kind.ofName "generic_type") (base.under .name :: arguments))

/-- A module named by its file, with accesses behind it. -/
def importedType : Parser Piece := do
  let keyword ← take (Kind.ofName "import") true 6
  let arguments ← node "arguments" (between "(" ")" (one string))
  let rest ← many (do
    let dot ← symbol "."
    pure (dot, ← name .identifier))
  let call := Piece.node .callExpression [keyword.under .function, arguments.under .arguments]
  pure (nestedFrom memberOf memberOf call rest)

/-! ## Members -/

/-- The key of an index, or the clause of a mapped type. -/
def indexClause : Parser (List Piece) := do
  let start ← symbol "["
  let inner ← (do
      let key ← name .identifier
      let colon ← symbol ":"
      pure [key.under .name, colon, ← g.type]) <|>
    one (node "mapped_type_clause" (do
      let key ← name (Kind.ofName "type_identifier")
      let keyword ← word "in"
      let type ← g.type
      let as_ ← orNone (do
        let keyword ← word "as"
        pure [keyword, ← g.type])
      pure ([key.under .name, keyword, type] ++ as_)))
  let stop ← symbol "]"
  pure (start :: inner ++ [stop])

def signMark : Parser Piece := symbol "+" <|> symbol "-"

def indexSignature : Parser Piece :=
  node "index_signature" (do
    let start ← orNone (do
      let sign ← maybe signMark
      pure (sign ++ [← word "readonly"]))
    let clause ← indexClause g
    let mark ← orNone (do
      let sign ← maybe signMark
      pure (sign ++ [← symbol "?"]))
    let type ← maybe (typeClause g)
    pure (start ++ clause ++ mark ++ type))

def memberModifiers : Parser (List Piece) :=
  many (modifier (accessibility <|> oneOfWords ["static", "override", "readonly", "async", "get", "set"]
    <|> symbol "*"))

/-- A method with its signature, or a property with its type. -/
def namedMember : Parser Piece := do
  let modifiers ← memberModifiers
  let key ← propertyName g
  let mark ← maybe (symbol "?")
  let start := modifiers ++ [key.under .name] ++ mark
  (do
    let signature ← callSignature g
    pure (Piece.node (Kind.ofName "method_signature") (start ++ signature))) <|>
  (do
    let type ← maybe (typeClause g)
    pure (Piece.node (Kind.ofName "property_signature") (start ++ type.map (·.under .type))))

def objectMember : Parser Piece :=
  indexSignature g <|> node "call_signature" (callSignature g) <|>
  node "construct_signature" (do
    let abstract_ ← maybe (word "abstract")
    let keyword ← word "new"
    pure (abstract_ ++ keyword :: (← callSignature g))) <|>
  namedMember g

/-- What ends a member: a comma, a semicolon, or a line end. -/
def memberEnd : Parser (List Piece) := one (symbol ",") <|> semicolon false

def objectType (kind : String) : Parser Piece :=
  node kind (between "\x7b" "\x7d" (do
    let start ← orNone memberEnd
    let members ← manyPieces (do
      let m ← objectMember g
      pure (m :: (← memberEnd)))
    pure (start ++ members)))

/-! ## Simple types -/

def tupleMember : Parser Piece :=
  node "tuple_parameter" (do
    let dots ← maybe (symbol "...")
    let key ← name .identifier
    let mark ← maybe (symbol "?")
    let type ← typeClause g
    pure (dots ++ [key.under .name] ++ mark ++ [type.under .type])) <|>
  node "rest_type" (do
    let dots ← symbol "..."
    pure [dots, ← g.type]) <|>
  (do
    let type ← g.type
    (do
      let mark ← symbol "?"
      pure (Piece.node (Kind.ofName "optional_type") [type, mark])) <|> pure type)

def tupleType : Parser Piece :=
  node "tuple_type" (between "[" "]" (commaList (one (tupleMember g))))

def functionType (kind : String) (start : Parser (List Piece)) : Parser Piece :=
  node kind (do
    let start ← start
    let types ← maybe (typeParameters g)
    let parameters ← formalParameters g
    let arrow ← symbol "=>"
    let type ← returned g
    pure (start ++ types ++ [parameters.under .parameters, arrow, type.under .returnType]))

def constructorType : Parser Piece :=
  functionType g "constructor_type" (do
    let abstract_ ← maybe (word "abstract")
    pure (abstract_ ++ [← word "new"]))

def typeQuery : Parser Piece :=
  node "type_query" (do
    let keyword ← word "typeof"
    let subject ← (do
      require ((← peekWord) == "import")
      importedType) <|> (do
      let word ← peekWord
      let first ← if word = "this" then take .this true 4 else name .identifier
      let rest ← many (do
        let dot ← symbol "."
        pure (dot, ← name .identifier <|> privateName))
      genericType g (nestedFrom memberOf memberOf first rest))
    pure [keyword, subject])

/-- A type behind a keyword. -/
def keywordType (keyword kind : String) : Parser Piece :=
  node kind (do
    let w ← word keyword
    require (← aheadIs fun c => isNameHead c || "([\x7b'\"\x60<".toList.contains c || c.isDigit)
    pure [w, ← g.simpleType])

def inferType : Parser Piece :=
  node "infer_type" (do
    let keyword ← word "infer"
    pure [keyword, ← name (Kind.ofName "type_identifier")])

def literalType : Parser Piece :=
  node "literal_type" (one (string <|> number <|> (do
    let w ← peekWord
    require (literalWords.contains w)
    take (Kind.ofName w) true w.length) <|>
    node "unary_expression" (do
      let minus ← symbol "-"
      pure [minus, ← number])))

def namedType : Parser Piece := do
  let w ← peekWord
  if typeWords.contains w then node "predefined_type" (one (word w))
  else if w = "this" then take (Kind.ofName "this_type") true 4
  else genericType g (← typeName)

def atomicType : Parser Piece :=
  objectType g "object_type" <|> tupleType g <|> functionType g "function_type" (pure []) <|>
  node "parenthesized_type" (between "(" ")" (one g.type)) <|>
  template "template_literal_type" "template_type" (one g.type) <|>
  literalType <|> constructorType g <|> typeQuery g <|> keywordType g "keyof" "index_type_query" <|>
  keywordType g "readonly" "readonly_type" <|>
  node "predefined_type" (do
    let unique ← word "unique"
    pure [unique, ← word "symbol"]) <|>
  inferType <|>
  (do
    require ((← peekWord) == "import")
    genericType g (← importedType)) <|>
  namedType g

/-- Brackets behind a type, on the same line. -/
def typeSuffixes : Nat → Piece → Parser Piece
  | 0, base => pure base
  | fuel + 1, base =>
    (do
      sameLine
      let start ← symbol "["
      (do
        let stop ← symbol "]"
        typeSuffixes fuel (Piece.node (Kind.ofName "array_type") [base, start, stop])) <|>
      (do
        let index ← g.type
        let stop ← symbol "]"
        typeSuffixes fuel (Piece.node (Kind.ofName "lookup_type") [base, start, index, stop]))) <|>
    pure base

def simpleTypeRule : Parser Piece := do
  let base ← atomicType g
  typeSuffixes g (← get).rest.length base

/-! ## Types -/

/-- Types joined by an operator, which may also stand before the first. -/
def joinedTypes (kind operator : String) (item : Parser Piece) : Parser Piece := do
  let start ← maybe (symbol operator)
  let first ← item
  let rest ← many (do
    let op ← symbol operator
    pure (op, ← item))
  let first := if start.isEmpty then first else Piece.node (Kind.ofName kind) (start ++ [first])
  pure (rest.foldl (fun left r => Piece.node (Kind.ofName kind) [left, r.1, r.2]) first)

def unionType : Parser Piece :=
  joinedTypes "union_type" "|" (joinedTypes "intersection_type" "&" g.simpleType)

def typeRule : Parser Piece := do
  let left ← unionType g
  (do
    let extends_ ← word "extends"
    let right ← unionType g
    let question ← symbol "?"
    let consequence ← g.type
    let colon ← symbol ":"
    let alternative ← g.type
    pure (Piece.node (Kind.ofName "conditional_type")
      [left, extends_, right, question, consequence, colon, alternative])) <|> pure left

end Conformance.Script.Grammar
