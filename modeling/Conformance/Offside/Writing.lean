import Conformance.Offside.Literal

/-! # Writing expressions

Expressions written back as source, with single blanks around operators and no parentheses but the
necessary ones.

* `Precedence`: how tightly a form binds; an expression is put in parentheses where a tighter one is
  expected.
* `Node.write`: an expression where a given precedence is expected.
* `Node.source`: an expression on its own.
-/

namespace Conformance.Offside
open Text
set_option autoImplicit false

variable {ν : Type}

/-- Levels of binding, loosest first. -/
abbrev Precedence := Nat

namespace Precedence

def named : Precedence := 1
def tuple : Precedence := 2
def yield : Precedence := 3
def test : Precedence := 4
def or : Precedence := 5
def and : Precedence := 6
def not : Precedence := 7
def compare : Precedence := 8
def bitOr : Precedence := 9
def bitXor : Precedence := 10
def bitAnd : Precedence := 11
def shift : Precedence := 12
def arithmetic : Precedence := 13
def term : Precedence := 14
def factor : Precedence := 15
def power : Precedence := 16
def await : Precedence := 17
def atom : Precedence := 18

/-- The next tighter level. -/
def tighter (p : Precedence) : Precedence := min atom (p + 1)

end Precedence

open Precedence

def BooleanOp.symbol : BooleanOp → String
  | and => "and"
  | or => "or"

def BooleanOp.precedence : BooleanOp → Precedence
  | and => Precedence.and
  | or => Precedence.or

def BinaryOp.symbol : BinaryOp → String
  | add => "+"
  | sub => "-"
  | mult => "*"
  | matMult => "@"
  | div => "/"
  | mod => "%"
  | lShift => "<<"
  | rShift => ">>"
  | bitOr => "|"
  | bitXor => "^"
  | bitAnd => "&"
  | floorDiv => "//"
  | pow => "**"

def BinaryOp.precedence : BinaryOp → Precedence
  | add | sub => arithmetic
  | mult | matMult | div | mod | floorDiv => term
  | lShift | rShift => shift
  | bitOr => Precedence.bitOr
  | bitXor => Precedence.bitXor
  | bitAnd => Precedence.bitAnd
  | pow => power

/-- The sign with the blank that a word needs behind it. -/
def UnaryOp.symbol : UnaryOp → String
  | invert => "~"
  | not => "not "
  | plus => "+"
  | minus => "-"

def UnaryOp.precedence : UnaryOp → Precedence
  | not => Precedence.not
  | _ => factor

def CompareOp.symbol : CompareOp → String
  | eq => "=="
  | notEq => "!="
  | lt => "<"
  | ltE => "<="
  | gt => ">"
  | gtE => ">="
  | is => "is"
  | isNot => "is not"
  | isIn => "in"
  | notIn => "not in"

namespace Form

/-- The precedence of the form itself, if it can need parentheses. -/
def precedence? : Form → Option Precedence
  | boolean op => some op.precedence
  | named => some Precedence.named
  | binary op => some op.precedence
  | unary op => some op.precedence
  | lambda | conditional => some test
  | await => some Precedence.await
  | yield | yieldFrom => some Precedence.yield
  | compare _ => some Precedence.compare
  | _ => none

/-- The precedence expected of the value of a mapping entry: tighter where it is unpacked. -/
def entryPrecedence (key : Option (Node ν)) : Precedence := if key.isNone then bitOr else test

/-- The precedences expected of the parts. -/
def expected (f : Form) (parts : List (Option (Node ν))) : List Precedence :=
  let n := parts.length
  match f with
  | boolean op => (List.range n).map fun i => min atom (op.precedence + i + 1)
  | named | await | yield | yieldFrom => List.replicate n atom
  | binary .pow => [power.tighter, power]
  | binary op => [op.precedence, op.precedence.tighter]
  | unary op => [op.precedence]
  | conditional => [test.tighter, test.tighter, test]
  | dict =>
    let keys := parts.take (n / 2)
    List.replicate (n / 2) test ++ keys.map entryPrecedence
  | compare _ => List.replicate n Precedence.compare.tighter
  | starred => [bitOr]
  | comprehension _ => Precedence.tuple :: List.replicate n test.tighter
  | _ => List.replicate n test

end Form

/-! ## Layout of written parts -/

def commas (items : List (List Char)) : List Char := [',', ' '].intercalate items

/-- Items between commas; a single one has a comma behind it. -/
def tupleItems : List (List Char) → List Char
  | [item] => item ++ [',']
  | items => commas items

def comparisons : List CompareOp → List (List Char) → List Char
  | op :: ops, right :: rest =>
    [' '] ++ op.symbol.toList ++ [' '] ++ right ++ comparisons ops rest
  | _, _ => []

/-- Entries of a mapping; a missing key marks an unpacked one. -/
def mappingItems : List (Option (List Char)) → List (Option (List Char)) → List (List Char)
  | key :: keys, value :: values =>
    let v := value.getD []
    (match key with
      | some k => k ++ [':', ' '] ++ v
      | none => ['*', '*'] ++ v) :: mappingItems keys values
  | _, _ => []

/-- A form from its written parts. -/
def Form.layout (f : Form) (parts : List (Option (List Char))) : List Char :=
  let given := parts.filterMap id
  match f, given with
  | boolean op, _ => ([' '] ++ op.symbol.toList ++ [' ']).intercalate given
  | named, [target, value] => target ++ [' ', ':', '=', ' '] ++ value
  | binary op, [left, right] => left ++ [' '] ++ op.symbol.toList ++ [' '] ++ right
  | unary op, [operand] => op.symbol.toList ++ operand
  | lambda, [parameters, body] =>
    "lambda".toList ++ (if parameters.isEmpty then [] else ' ' :: parameters) ++ [':', ' '] ++ body
  | conditional, [condition, yes, no] =>
    yes ++ " if ".toList ++ condition ++ " else ".toList ++ no
  | dict, _ =>
    let n := parts.length / 2
    ['\x7b'] ++ commas (mappingItems (parts.take n) (parts.drop n)) ++ ['\x7d']
  | set, [] => ['\x7b', '*', '(', ')', '\x7d']
  | set, _ => ['\x7b'] ++ commas given ++ ['\x7d']
  | list, _ => ['['] ++ commas given ++ [']']
  | listComp, _ => ['['] ++ given.flatten ++ [']']
  | setComp, _ => ['\x7b'] ++ given.flatten ++ ['\x7d']
  | generator, _ => ['('] ++ given.flatten ++ [')']
  | dictComp, key :: value :: generators =>
    ['\x7b'] ++ key ++ [':', ' '] ++ value ++ generators.flatten ++ ['\x7d']
  | await, [value] => "await ".toList ++ value
  | yieldFrom, [value] => "yield from ".toList ++ value
  | yield, [value] => "yield ".toList ++ value
  | yield, _ => "yield".toList
  | compare ops, left :: rest => left ++ comparisons ops rest
  | starred, [value] => '*' :: value
  | slice, _ =>
    match parts with
    | [lower, upper, step] =>
      lower.getD [] ++ [':'] ++ upper.getD [] ++
        (match step with
          | some s => ':' :: s
          | none => [])
    | _ => []
  | comprehension isAsync, target :: iterable :: conditions =>
    (if isAsync then " async for ".toList else " for ".toList) ++ target ++ " in ".toList ++
      iterable ++ conditions.flatMap fun c => " if ".toList ++ c
  | _, _ => given.flatten

def withDefault (parameter : List Char) : Option (List Char) → List Char
  | some d => parameter ++ ['='] ++ d
  | none => parameter

/-- Parameters with the defaults of the last ones. -/
def defaulted (parameters defaults : List (List Char)) : List (List Char) :=
  let padded := List.replicate (parameters.length - defaults.length) none ++ defaults.map some
  List.zipWith withDefault parameters padded

/-- A parameter list; a slash ends the positional-only ones, a star starts the keyword-only ones. -/
def parameterList (positionalOnly positional : List (List Char)) (rest : Option (List Char))
    (keywordOnly : List (List Char)) (keywordDefaults : List (Option (List Char)))
    (keywords : Option (List Char)) (defaults : List (List Char)) : List Char :=
  let all := defaulted (positionalOnly ++ positional) defaults
  let n := positionalOnly.length
  let plain := all.take n ++ (if n = 0 then [] else [['/']]) ++ all.drop n
  let star := match rest with
    | some r => [['*'] ++ r]
    | none => if keywordOnly.isEmpty then [] else [['*']]
  commas (plain ++ star ++ List.zipWith withDefault keywordOnly keywordDefaults ++
    (keywords.map fun k => ['*', '*'] ++ k).toList)

/-- Braces are doubled in the plain text of a formatted one. -/
def doubleBraces (s : List Char) : List Char :=
  s.flatMap fun c => if c = '\x7b' || c = '\x7d' then [c, c] else [c]

def parenthesized (condition : Bool) (s : List Char) : List Char :=
  if condition then ['('] ++ s ++ [')'] else s

/-- A replacement field from its written value and format. -/
def replacement (conversion : Option Char) (value : List Char) (format : Option (List Char)) :
    List Char :=
  ['\x7b'] ++ (if value.head? = some '\x7b' then [' '] else []) ++ value ++
    (match conversion with
      | some c => ['!', c]
      | none => []) ++
    (match format with
      | some f => ':' :: f
      | none => []) ++ ['\x7d']

namespace Node

def isTuple : Node ν → Bool
  | tuple _ => true
  | _ => false

/-- A whole number or truth value, behind which a dot needs a blank before it. -/
def isIntegral : Node ν → Bool
  | constant (.int _) | constant (.bool _) => true
  | _ => false

def isText : Option (Node ν) → Bool
  | some (constant (.str _ _)) => true
  | _ => false

mutual

/-- The node as source where an expression of the given precedence is expected; `inFormatted` tells
that it stands in a formatted text. -/
def write (inFormatted : Bool) (precedence : Precedence) : Node ν → List Char
  | name id => id.toList
  | member value attr =>
    write inFormatted atom value ++ (if value.isIntegral then [' '] else []) ++ ['.'] ++ attr.toList
  | subscript value slice =>
    write inFormatted atom value ++ ['['] ++
      write inFormatted (if slice.isTuple then Precedence.tuple else test) slice ++ [']']
  | constant c => c.write inFormatted
  | tuple elements =>
    parenthesized (elements.isEmpty || precedence > Precedence.tuple)
      (tupleItems (writeEach inFormatted elements))
  | call _ func args keywords =>
    write inFormatted atom func ++ ['('] ++
      commas (writeEach inFormatted args ++ writeEach inFormatted keywords) ++ [')']
  | keyword key value =>
    (match key with
      | some n => n.toList ++ ['=']
      | none => ['*', '*']) ++ write inFormatted test value
  | parameters positionalOnly positional rest keywordOnly keywordDefaults keywords defaults =>
    parameterList (writeEach inFormatted positionalOnly) (writeEach inFormatted positional)
      (writeOption inFormatted rest) (writeEach inFormatted keywordOnly)
      (writeOptions inFormatted keywordDefaults []) (writeOption inFormatted keywords)
      (writeEach inFormatted defaults)
  | parameter id hint =>
    id.toList ++
      (match writeOption inFormatted hint with
        | some a => [':', ' '] ++ a
        | none => [])
  | form .joined parts =>
    let pieces := fragments parts
    'f' ::
      if inFormatted then encloseText pieces.flatten
      else encloseFormatted (pieces.zip (parts.map isText))
  | form f parts =>
    let body := f.layout (writeOptions inFormatted parts (f.expected parts))
    match f.precedence? with
    | some own => parenthesized (precedence > own) body
    | none => body
  | handler _ _ _ | importModules _ | importFrom _ _ | function _ _ _ _ _ _ _ => []

/-- Each node where any condition or tighter is expected. -/
def writeEach (inFormatted : Bool) : List (Node ν) → List (List Char)
  | [] => []
  | n :: rest => write inFormatted test n :: writeEach inFormatted rest

def writeOption (inFormatted : Bool) : Option (Node ν) → Option (List Char)
  | none => none
  | some n => some (write inFormatted test n)

/-- The parts where the listed precedences are expected. -/
def writeOptions (inFormatted : Bool) :
    List (Option (Node ν)) → List Precedence → List (Option (List Char))
  | [], _ => []
  | none :: rest, expected => none :: writeOptions inFormatted rest expected.tail
  | some n :: rest, expected =>
    some (write inFormatted ((expected.head?).getD test) n) ::
      writeOptions inFormatted rest expected.tail

/-- A piece of a formatted text as it stands between the quotes. -/
def fragment : Node ν → List Char
  | constant (.str s _) => doubleBraces s.toList
  | form (.formatted conversion) [some value, none] =>
    replacement conversion (write true test.tighter value) none
  | form (.formatted conversion) [some value, some format] =>
    replacement conversion (write true test.tighter value) (some (fragment format))
  | form .joined parts => (fragments parts).flatten
  | _ => []

def fragments : List (Option (Node ν)) → List (List Char)
  | [] => []
  | none :: rest => fragments rest
  | some n :: rest => fragment n :: fragments rest

end

/-- The expression on its own. -/
def source (n : Node ν) : String := String.ofList (n.write false test)

end Node

end Conformance.Offside
