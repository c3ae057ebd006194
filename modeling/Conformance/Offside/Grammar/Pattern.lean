import Conformance.Offside.Grammar.Expression

/-! # Patterns

What the cases of a `match` statement are compared with. Of a pattern only the expressions in it are
kept: the values it compares with, the keys it looks up and the classes it asks for.

* `patternRule`: a pattern.
* `patterns`: what stands behind `case`.
-/

namespace Conformance.Offside.Grammar
open Offside.Parser
set_option autoImplicit false

variable (g : Grammar)

/-- A pattern with what is below it. -/
def patternNode (parts : List Tree) : Tree := .form .statement (parts.map some)

/-! ## Literals -/

def isImaginary : Constant → Bool
  | .imaginary _ => true
  | _ => false

def number : Parser Constant := do
  match ← peek with
  | .number c =>
    skip
    pure c
  | _ => failure

/-- A number with a minus before it, or without. -/
def signedNumber : Parser (Constant × Tree) := do
  if ← takeOp "-" then
    let c ← number
    pure (c, .form (.unary .minus) [some (.constant c)])
  else
    let c ← number
    pure (c, .constant c)

/-- A number; a real one may have an imaginary one added or taken away. -/
def numberLiteral : Parser Tree := do
  let (c, n) ← signedNumber
  let plus ← takeOp "+"
  let minus ← if plus then pure false else takeOp "-"
  if plus || minus then
    let d ← number
    require (!isImaginary c && isImaginary d)
    pure (.form (.binary (if plus then .add else .sub)) [some n, some (.constant d)])
  else pure n

/-- A text, or a literal that is a word. -/
def literal : Parser Tree := do
  match ← peek with
  | .text _ _ => strings g
  | .name i =>
    match wordAtom? i with
    | some (.constant c) =>
      skip
      pure (.constant c)
    | _ => failure
  | _ => failure

/-! ## Names -/

/-- A name with names accessed in it, behind points. -/
def path : Parser Tree := do
  let first ← name
  let rest ← many (do
    op "."
    name)
  pure (rest.foldl Node.member (.name first))

/-- A name that the pattern binds; the underscore binds nothing. -/
def captured : Parser PUnit := do
  require (!(← seesWord "_"))
  let _ ← name
  require (!((← sees ".") || (← sees "(") || (← sees "=")))

/-! ## Collections -/

/-- An item of a sequence; a starred one takes what the others leave. -/
def sequenceItem : Parser (Tree × Bool) := do
  if ← takeOp "*" then
    captured <|> word "_"
    pure (patternNode [], true)
  else pure (← g.pattern, false)

/-- Patterns between parentheses: a single one stands for itself. -/
def parenthesizedPattern : Parser Tree := do
  op "("
  if ← takeOp ")" then pure (patternNode [])
  else
    let (items, comma) ← commaList (sequenceItem g)
    op ")"
    match items, comma with
    | [(_, true)], false => failure
    | [(n, false)], false => pure n
    | _, _ => pure (patternNode (items.map Prod.fst))

def bracketedPattern : Parser Tree := do
  op "["
  if ← takeOp "]" then pure (patternNode [])
  else
    let (items, _) ← commaList (sequenceItem g)
    op "]"
    pure (patternNode (items.map Prod.fst))

/-- A path of at least two names. -/
def dottedPath : Parser Tree := do
  match ← path with
  | .name _ => failure
  | n => pure n

def patternKey : Parser Tree := numberLiteral <|> literal g <|> dottedPath

/-- A key with the pattern for its value, or the name for all other keys, which comes last. -/
def mappingItem : Parser (Option (Tree × Tree)) := do
  if ← takeOp "**" then
    captured
    pure none
  else
    let key ← patternKey g
    op ":"
    let value ← g.pattern
    pure (some (key, value))

/-- Only the last item is the name for all other keys. -/
def restIsLast {α : Type} : List (Option α) → Bool
  | [] | [_] => true
  | a :: rest => a.isSome && restIsLast rest

def mappingPattern : Parser Tree := do
  op "\x7b"
  if ← takeOp "\x7d" then pure (patternNode [])
  else
    let (items, _) ← commaList (mappingItem g)
    op "\x7d"
    require (restIsLast items)
    let entries := items.filterMap id
    pure (patternNode (entries.map Prod.fst ++ entries.map Prod.snd))

/-! ## Classes -/

/-- A pattern for a part of an object, and whether the part is given by name. -/
def classItem : Parser (Tree × Bool) :=
  (do
    let _ ← name
    op "="
    pure (← g.pattern, true)) <|> (do
    pure (← g.pattern, false))

/-- No part given by position follows one given by name. -/
def positionalFirst : List (Tree × Bool) → Bool
  | [] => true
  | (_, true) :: rest => rest.all Prod.snd
  | (_, false) :: rest => positionalFirst rest

/-- The parts of an object that a class pattern compares. -/
def classItems : Parser (List Tree) := do
  op "("
  if ← takeOp ")" then pure []
  else
    let (items, _) ← commaList (classItem g)
    op ")"
    require (positionalFirst items)
    pure (items.map Prod.fst)

/-! ## Patterns -/

/-- A name that is bound, or the underscore; a class; or a path, whose value is compared. -/
def namePattern : Parser Tree :=
  (do
    captured <|> word "_"
    pure (patternNode [])) <|> (do
    let n ← path
    let items ← classItems g
    pure (patternNode (n :: items))) <|> (do
    let n ← dottedPath
    refuse "="
    pure (patternNode [n]))

def closedPattern : Parser Tree := do
  match ← peek with
  | .op "(" => parenthesizedPattern g
  | .op "[" => bracketedPattern g
  | .op "\x7b" => mappingPattern g
  | _ => patternNode <$> (fun n => [n]) <$> (numberLiteral <|> literal g) <|> namePattern g

/-- Alternatives, which may be bound to a name. -/
def patternRule : Parser Tree := do
  let first ← closedPattern g
  let others ← many (do
    op "|"
    closedPattern g)
  let n := if others.isEmpty then first else patternNode (first :: others)
  if ← takeWord "as" then
    captured
    pure (patternNode [n])
  else pure n

/-- What stands behind `case`: a pattern, or a sequence without brackets. -/
def patterns : Parser Tree := do
  match ← commaList (sequenceItem g) with
  | ([(_, true)], false) => failure
  | ([(n, false)], false) => pure n
  | (items, _) => pure (patternNode (items.map Prod.fst))

end Conformance.Offside.Grammar
