import Conformance.Script.Grammar

/-! # Markup in scripts

Elements with tags, as they may stand for expressions in the dialect with markup.

* `elementRule`: an element with its attributes and children.
-/

namespace Conformance.Script.Grammar
open Script.Parser
set_option autoImplicit false

variable (g : Grammar)

def isMarkupNamePart (c : Char) : Bool := isNamePart c || c == '-'

/-- A name, which may hold dashes. -/
def markupName (kind : Kind) : Parser Piece := do
  let cs ← ahead
  require (Text.headIs isNameHead cs)
  take kind true (cs.takeWhile isMarkupNamePart).length

/-- The name of a tag: a name, names with dots between them, or a name in a namespace. -/
def tagName : Parser Piece := do
  let first ← markupName .identifier
  (do
    let colon ← symbol ":"
    pure (Piece.node (Kind.ofName "jsx_namespace_name") [first, colon, ← markupName .identifier])) <|>
  (do
    let rest ← many (do
      let dot ← symbol "."
      pure (dot, ← name .propertyIdentifier))
    pure (rest.foldl (fun base r =>
      Piece.node .memberExpression [base.under .object, r.1, r.2.under .property]) first))

/-- An expression in braces, or nothing in them. -/
def markupExpression : Parser Piece :=
  node "jsx_expression" (between "\x7b" "\x7d"
    (maybe (argumentList.spread g <|> sequence g .brackets)))

/-- A text between quotes in which nothing is escaped. -/
def markupString : Parser Piece := do
  let cs ← ahead
  match cs with
  | q :: r =>
    require (q == '"' || q == '\'')
    require (r.contains q)
    take .string true ((r.takeWhile (· != q)).length + 2)
  | [] => failure

def markupValue : Parser Piece := markupString <|> markupExpression g <|> g.element

def markupItem : Parser Piece :=
  markupExpression g <|> node "jsx_attribute" (do
    let first ← markupName .propertyIdentifier
    let rest ← orNone (do
      let colon ← symbol ":"
      pure [colon, ← markupName .propertyIdentifier])
    let key := if rest.isEmpty then first else Piece.node (Kind.ofName "jsx_namespace_name") (first :: rest)
    let value ← orNone (do
      let eq ← symbol "="
      pure [eq, ← markupValue g])
    pure (key :: value))

/-- Text between tags. -/
def markupText : Parser Piece := do
  let cs := (← get).rest
  let n := (cs.takeWhile fun c => !"\x7b\x7d<>".toList.contains c).length
  require (0 < n)
  takeHere (Kind.ofName "jsx_text") true n

/-- A mark of two characters. -/
def tagMark (s : String) : Parser Piece := do
  require (Text.after? s.toList (← ahead)).isSome
  take (Kind.ofName s) false s.length

def closingTag (name : Option Piece) : Parser Piece :=
  node "jsx_closing_element" (do
    let start ← tagMark "</"
    let closing ← maybe tagName
    require (closing.map (·.tree.text) == name.toList.map (·.tree.text))
    let stop ← mark '>'
    pure (start :: closing ++ [stop]))

def elementRule : Parser Piece := do
  require g.hasMarkup
  let start ← mark '<'
  let tag ← maybe tagName
  let types ← orNone (do
    require (!tag.isEmpty)
    pure [← typeArguments g])
  let items ← orNone (do
    require (!tag.isEmpty)
    many (markupItem g))
  let head := start :: tag.map (·.under .name) ++ types ++ items
  (do
    require (!tag.isEmpty)
    let stop ← tagMark "/>"
    pure (Piece.node (Kind.ofName "jsx_self_closing_element") (head ++ [stop]))) <|>
  (do
    let stop ← mark '>'
    let children ← many (markupText <|> markupExpression g <|> g.element)
    let closing ← closingTag tag.head?
    pure (Piece.node (Kind.ofName "jsx_element")
      (Piece.node (Kind.ofName "jsx_opening_element") (head ++ [stop]) :: children ++ [closing])))

end Conformance.Script.Grammar
