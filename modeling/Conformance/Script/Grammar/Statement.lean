import Conformance.Script.Grammar.Member

/-! # Statements

* `declaration`: what introduces names: variables, functions, classes, types.
* `importStatement`, `exportStatement`: connections between modules.
* `statementRule`: any statement.
-/

namespace Conformance.Script.Grammar
open Script.Parser
set_option autoImplicit false

variable (g : Grammar)

def condition : Parser Piece :=
  node "parenthesized_expression" (between "(" ")" (one (sequence g .brackets)))

/-! ## Variables -/

/-- A variable with its type and value; and whether it has a value. -/
def declarator : Parser (Piece × Bool) := do
  let target ← destructuring g <|> name .identifier
  let bang ← maybe (symbol "!")
  let type ← maybe (typeClause g)
  let value ← orNone (initializer g .statement)
  pure (Piece.node .variableDeclarator
    ([target.under .name] ++ bang ++ type.map (·.under .type) ++ value), !value.isEmpty)

/-- A keyword with the variables that it declares. -/
def declarators (keyword : Parser Piece) (kind : Kind) : Parser Piece := do
  let k ← keyword
  let (first, firstValue) ← declarator g
  let rest ← many (do
    let comma ← symbol ","
    pure (comma, ← declarator g))
  let endsInValue := (rest.getLast?.map fun r => r.2.2).getD firstValue
  let stop ← semicolon endsInValue
  pure (Piece.node kind (k :: first :: rest.flatMap (fun r => [r.1, r.2.1]) ++ stop))

def variableDeclaration : Parser Piece :=
  declarators g (word "var") .variableDeclaration <|>
  declarators g (oneOfWords ["let", "const"]) .lexicalDeclaration <|>
  declarators g (do
    let keyword ← word "using"
    sameLine
    pure keyword) (Kind.ofName "using_declaration")

/-! ## Other declarations -/

/-- A function with a name; without a body it is a signature only. -/
def functionDeclaration : Parser Piece := do
  let head ← functionHead
  require head.isNamed
  let signature ← callSignature g
  (do
    let body ← block g
    pure (Piece.node
      (if head.isGenerator then .generatorFunctionDeclaration else .functionDeclaration)
      (head.pieces ++ signature ++ [body.under .body]))) <|>
  (do
    let stop ← semicolon false
    pure (Piece.node (Kind.ofName "function_signature") (head.pieces ++ signature ++ stop)))

def classDeclaration : Parser Piece := do
  let pieces ← classDefinition g true
  let kind :=
    if pieces.any fun p => p.kind = Kind.ofName "abstract" then "abstract_class_declaration"
    else "class_declaration"
  pure (Piece.node (Kind.ofName kind) pieces)

/-- A keyword that is one only if a name follows on the same line. -/
def headWord (s : String) : Parser Piece := do
  let keyword ← word s
  sameLine
  require (← aheadIs fun c => isNameHead c || c == '"' || c == '\'')
  pure keyword

def typeAlias : Parser Piece :=
  node "type_alias_declaration" (do
    let keyword ← headWord "type"
    let name ← name (Kind.ofName "type_identifier")
    let types ← maybe (typeParameters g)
    let eq ← symbol "="
    let type ← g.type
    let stop ← semicolon false
    pure (keyword :: name.under .name :: types ++ [eq, type.under .value] ++ stop))

def interfaceDeclaration : Parser Piece :=
  node "interface_declaration" (do
    let keyword ← headWord "interface"
    let name ← name (Kind.ofName "type_identifier")
    let types ← maybe (typeParameters g)
    let parents ← maybe (node "extends_type_clause" (do
      let extends_ ← word "extends"
      pure (extends_ :: (← separated (symbol ",") (one g.simpleType)))))
    let body ← objectType g "interface_body"
    pure (keyword :: name.under .name :: types ++ parents ++ [body.under .body]))

def enumItem : Parser Piece := do
  let key ← propertyName g
  match ← orNone (initializer g .brackets) with
  | [] => pure (key.under .name)
  | value => pure (Piece.node (Kind.ofName "enum_assignment") (key.under .name :: value))

def enumDeclaration : Parser Piece :=
  node "enum_declaration" (do
    let const_ ← maybe (word "const")
    let keyword ← word "enum"
    let name ← name .identifier
    let body ← node "enum_body" (between "\x7b" "\x7d" (commaList (one (enumItem g))))
    pure (const_ ++ [keyword, name.under .name, body.under .body]))

/-- A module with its statements. -/
def moduleWith (kind : String) (keyword : Parser Piece) (needsBody : Bool) : Parser Piece :=
  node kind (do
    let k ← keyword
    let name ← string <|> nestedIdentifier
    let body ← maybe (block g)
    require (!(needsBody && body.isEmpty))
    pure (k :: name.under .name :: body.map (·.under .body)))

def internalModule : Parser Piece := moduleWith g "internal_module" (headWord "namespace") true

def moduleDeclaration : Parser Piece := moduleWith g "module" (headWord "module") false

def importAlias : Parser Piece :=
  node "import_alias" (do
    let keyword ← word "import"
    let name ← name .identifier
    let eq ← symbol "="
    let subject ← nestedIdentifier
    let stop ← semicolon false
    pure ([keyword, name, eq, subject] ++ stop))

/-- What introduces names. -/
def plainDeclaration : Parser Piece :=
  functionDeclaration g <|> classDeclaration g <|> enumDeclaration g <|> variableDeclaration g <|>
  typeAlias g <|> interfaceDeclaration g <|> internalModule g <|> moduleDeclaration g <|> importAlias

/-- A declaration of something that is defined elsewhere. -/
def ambientDeclaration : Parser Piece :=
  node "ambient_declaration" (do
    let keyword ← headWord "declare"
    (do
      let global ← word "global"
      pure [keyword, global, ← block g]) <|>
    (do pure [keyword, ← plainDeclaration g]))

def declaration : Parser Piece := plainDeclaration g <|> ambientDeclaration g

/-! ## Imports and exports -/

def exportedName : Parser Piece := string <|> name .identifier

/-- A name, perhaps with another one that it goes by. -/
def specifier (kind : String) : Parser Piece :=
  node kind (do
    let start ← orNone (do
      let keyword ← oneOfWords ["type", "typeof"]
      let w ← peekWord
      require (!w.isEmpty && w ≠ "as")
      pure [keyword])
    let name ← exportedName
    let alias_ ← orNone (do
      let keyword ← word "as"
      pure [keyword, ← exportedName])
    pure (start ++ [name.under .name] ++ alias_))

def specifiers (kind item : String) : Parser Piece :=
  node kind (between "\x7b" "\x7d" (commaList (one (specifier item))))

def fromClause : Parser (List Piece) := do
  let keyword ← word "from"
  let source ← string
  pure [keyword, source.under .source]

def namespaceImport : Parser Piece :=
  node "namespace_import" (do
    let star ← symbol "*"
    let keyword ← word "as"
    pure [star, keyword, ← name .identifier])

def importClause : Parser Piece :=
  let others := namespaceImport <|> specifiers "named_imports" "import_specifier"
  node "import_clause" (one others <|> (do
    let standard ← name .identifier
    let rest ← orNone (do
      let comma ← symbol ","
      pure [comma, ← others])
    pure (standard :: rest)))

def requireClause : Parser Piece :=
  node "import_require_clause" (do
    let name ← name .identifier
    let eq ← symbol "="
    let keyword ← word "require"
    let start ← symbol "("
    let source ← string
    let stop ← symbol ")"
    pure [name, eq, keyword, start, source.under .source, stop])

def importAttribute : Parser (List Piece) :=
  maybe (node "import_attribute" (do
    let keyword ← oneOfWords ["with", "assert"]
    pure [keyword, ← object g]))

def importStatement : Parser Piece :=
  node "import_statement" (do
    let keyword ← word "import"
    let fromModule : Parser (List Piece) := do
      let clause ← importClause
      pure (clause :: (← fromClause))
    let typed : Parser (List Piece) := do
      let type ← oneOfWords ["type", "typeof"]
      pure (type :: (← fromModule <|> one requireClause))
    let body ← typed <|> fromModule <|> one requireClause <|> (do
      let source ← string
      pure [source.under .source])
    let attributes ← importAttribute g
    let stop ← semicolon false
    pure (keyword :: body ++ attributes ++ stop))

def namespaceExport : Parser Piece :=
  node "namespace_export" (do
    let star ← symbol "*"
    let keyword ← word "as"
    pure [star, keyword, ← exportedName])

/-- The standard export: a declaration with a name, or a value. -/
def standardExport : Parser (List Piece) := do
  let keyword ← word "default"
  (do pure [keyword, ← functionDeclaration g <|> classDeclaration g <|> interfaceDeclaration g]) <|>
  (do
    let value ← g.expression .statement
    let stop ← semicolon true
    pure (keyword :: value.under .value :: stop))

/-- Names, from this module or another one. -/
def exportClause : Parser (List Piece) := do
  let type ← maybe (oneOfWords ["type"])
  let clause ← specifiers "export_clause" "export_specifier"
  let source ← orNone (do
    sameLine
    fromClause)
  let attributes ← importAttribute g
  pure (type ++ clause :: source ++ attributes ++ (← semicolon false))

def exportStatement : Parser Piece :=
  node "export_statement" (do
    let start ← decorators g
    let keyword ← word "export"
    let rest ←
      standardExport g <|> exportClause g <|>
      (do
        let type ← maybe (word "type")
        let all ← namespaceExport <|> symbol "*"
        let source ← fromClause
        let attributes ← importAttribute g
        pure (type ++ all :: source ++ attributes ++ (← semicolon false))) <|>
      (do
        let eq ← symbol "="
        let value ← g.expression .statement
        pure (eq :: value :: (← semicolon true))) <|>
      (do
        let as_ ← word "as"
        let namespace_ ← word "namespace"
        let name ← name .identifier
        pure (as_ :: namespace_ :: name :: (← semicolon false))) <|>
      one (declaration g)
    pure (start ++ keyword :: rest))

/-! ## Control flow -/

def ifStatement : Parser Piece :=
  node "if_statement" (do
    let keyword ← word "if"
    let test ← condition g
    let consequence ← g.statement
    let alternative ← maybe (node "else_clause" (do
      let keyword ← word "else"
      pure [keyword, ← g.statement]))
    pure (keyword :: test :: consequence :: alternative))

/-- The statements behind the colon of a case. -/
def caseBody : Parser (List Piece) :=
  many (do
    require !((["case", "default"] : List String).contains (← peekWord))
    pure ((← g.statement).under .body))

def switchCase : Parser Piece :=
  node "switch_case" (do
    let keyword ← word "case"
    let value ← sequence g .brackets
    let colon ← symbol ":"
    pure (keyword :: value.under .value :: colon :: (← caseBody g))) <|>
  node "switch_default" (do
    let keyword ← word "default"
    let colon ← symbol ":"
    pure (keyword :: colon :: (← caseBody g)))

def switchStatement : Parser Piece :=
  node "switch_statement" (do
    let keyword ← word "switch"
    let value ← condition g
    let body ← node "switch_body" (between "\x7b" "\x7d" (many (switchCase g)))
    pure [keyword, value.under .value, body.under .body])

/-- The head of a loop over the items or keys of something. -/
def loopOver : Parser (List Piece) := do
  let declared : Parser (List Piece) := do
    let keyword ← oneOfWords ["var", "let", "const", "using"]
    let target ← destructuring g <|> name .identifier
    let value ← orNone (initializer g .brackets)
    pure (keyword :: target.under .left :: value)
  let known : Parser (List Piece) := do
    let target ← condition g <|> g.pattern
    pure [target.under .left]
  let behind (left : Parser (List Piece)) : Parser (List Piece) := do
    let left ← left
    let keyword ← oneOfWords ["in", "of"]
    let right ← sequence g .brackets
    pure (left ++ [keyword.under .operator, right.under .right])
  behind declared <|> behind known

def emptyStatement : Parser Piece := node "empty_statement" (one (symbol ";"))

/-- The head of a loop with a start, a condition and a step. -/
def loopWhile : Parser (List Piece) := do
  let part : Parser (List Piece) := (do
      let e ← sequence g .brackets
      pure [e, ← symbol ";"]) <|> one emptyStatement
  let start ← one (variableDeclaration g) <|> part
  let test ← part
  let step ← maybe (sequence g .brackets)
  pure (start ++ test ++ step)

def forStatement : Parser Piece :=
  node "for_in_statement" (do
    let keyword ← word "for"
    let await_ ← maybe (word "await")
    let head ← between "(" ")" (loopOver g)
    let body ← g.statement
    pure (keyword :: await_ ++ head ++ [body.under .body])) <|>
  node "for_statement" (do
    let keyword ← word "for"
    let head ← between "(" ")" (loopWhile g)
    let body ← g.statement
    pure (keyword :: head ++ [body.under .body]))

def whileStatement (keyword kind : String) : Parser Piece :=
  node kind (do
    let k ← word keyword
    let test ← condition g
    let body ← g.statement
    pure [k, test, body.under .body])

def doStatement : Parser Piece :=
  node "do_statement" (do
    let keyword ← word "do"
    let body ← g.statement
    let while_ ← word "while"
    let test ← condition g
    let stop ← maybe (symbol ";")
    pure ([keyword, body.under .body, while_, test] ++ stop))

/-- A handler; what it catches may be left out. -/
def catchClause : Parser Piece :=
  node "catch_clause" (do
    let keyword ← word "catch"
    let caught ← orNone (between "(" ")" (do
      let parameter ← destructuring g <|> name .identifier
      let type ← maybe (typeClause g)
      pure (parameter.under .parameter :: type.map (·.under .type))))
    let body ← block g
    pure (keyword :: caught ++ [body.under .body]))

def tryStatement : Parser Piece :=
  node "try_statement" (do
    let keyword ← word "try"
    let body ← block g
    let handler ← maybe (catchClause g)
    let last ← maybe (node "finally_clause" (do
      let keyword ← word "finally"
      let body ← block g
      pure [keyword, body.under .body]))
    pure (keyword :: body.under .body :: handler ++ last))

/-! ## Leaving -/

/-- A keyword that may end the statement, or be followed by something that ends it. -/
def leave (keyword kind : String) (what : Parser Piece) (inExpression : Bool) : Parser Piece :=
  node kind (do
    let k ← word keyword
    (do pure (k :: (← semicolon false))) <|> (do
      let x ← what
      pure (k :: x :: (← semicolon inExpression))))

def throwStatement : Parser Piece :=
  node "throw_statement" (do
    let keyword ← word "throw"
    let value ← sequence g .statement
    pure (keyword :: value :: (← semicolon true)))

def label : Parser Piece := name (Kind.ofName "statement_identifier")

/-! ## Statements -/

def labeledStatement : Parser Piece :=
  node "labeled_statement" (do
    let label ← label
    let colon ← symbol ":"
    let body ← g.statement
    pure [label, colon, body.under .body])

def expressionStatement : Parser Piece :=
  node "expression_statement" (do
    let e ← sequence g .statement <|> internalModule g
    pure (e :: (← semicolon true)))

/-- A statement that starts with none of the keywords. -/
def otherStatement : Parser Piece :=
  (do
    let w ← peekWord
    require (["type", "declare", "namespace", "module", "let", "async", "abstract", "function",
      "class"].contains w)
    if w = "namespace" then
      node "expression_statement" (do
        let m ← internalModule g
        pure (m :: (← semicolon true)))
    else declaration g) <|>
  labeledStatement g <|> expressionStatement g

def wordStatement (w : String) : Parser Piece := do
  if w = "import" then importStatement g <|> importAlias <|> expressionStatement g
  else if w = "export" then exportStatement g
  else if w = "if" then ifStatement g
  else if w = "switch" then switchStatement g
  else if w = "for" then forStatement g
  else if w = "while" then whileStatement g "while" "while_statement"
  else if w = "with" then whileStatement g "with" "with_statement"
  else if w = "do" then doStatement g
  else if w = "try" then tryStatement g
  else if w = "return" then leave "return" "return_statement" (sequence g .statement) true
  else if w = "break" then leave "break" "break_statement" label false
  else if w = "continue" then leave "continue" "continue_statement" label false
  else if w = "debugger" then
    node "debugger_statement" (do
      let keyword ← word "debugger"
      pure (keyword :: (← semicolon false)))
  else if w = "throw" then throwStatement g
  else if ["var", "const", "enum", "interface", "using"].contains w then declaration g
  else otherStatement g

def statementRule : Parser Piece := do
  match ← ahead with
  | '\x7b' :: _ => block g
  | ';' :: _ => emptyStatement
  | '@' :: _ => exportStatement g <|> classDeclaration g <|> expressionStatement g
  | _ => do wordStatement g (← peekWord)

end Conformance.Script.Grammar
