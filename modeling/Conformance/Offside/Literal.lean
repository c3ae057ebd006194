import Conformance.Offside.Node
import Conformance.Text.Quoted

/-! # Literals in written expressions

How constants are written back as source. Inside a formatted text a literal has to do without
backslashes where it can, which decides the quotes around it.

* `Constant.write`: a constant.
* `encloseText`, `encloseFormatted`: text between quotes that it does not hold.
-/

namespace Conformance.Offside
open Text
set_option autoImplicit false

abbrev Quotes := List Char

/-- The ways to enclose a literal, in order of preference. -/
def allQuotes : List Quotes :=
  [['\''], ['"'], ['"', '"', '"'], ['\'', '\'', '\'']]

/-- The text holds the characters of `part` in a row. -/
def holds (part : List Char) : List Char → Bool
  | [] => part.isEmpty
  | c :: r => (after? part (c :: r)).isSome || holds part r

def escapeUnprintable (escapeBlanks : Bool) (c : Char) : List Char :=
  if !escapeBlanks && (c = '\n' || c = '\t') then [c]
  else if c = '\\' then ['\\', '\\']
  else if isPrintable c then [c]
  else if c = '\t' then ['\\', 't']
  else if c = '\n' then ['\\', 'n']
  else if c = '\r' then ['\\', 'r']
  else escapeByNumber c.toNat

/-- The escaped text and the quotes that may enclose it, the preferred ones first. Quotes that do
not start with the last character of the text are preferred. -/
def enclosable (escapeBlanks : Bool) (quotes : List Quotes) (s : List Char) :
    List Char × List Quotes :=
  let escaped := s.flatMap (escapeUnprintable escapeBlanks)
  let fitting := if escaped.contains '\n' then quotes.filter fun q => q.length = 3 else quotes
  let possible := fitting.filter fun q => !holds q escaped
  let startsWithLast (q : Quotes) : Bool := q.head? == escaped.getLast?
  match possible.filter (fun q => !startsWithLast q) ++ possible.filter startsWithLast with
  | [] =>
    let quote := enclosingQuote s
    (s.flatMap (quoteChar quote), [(quotes.find? fun q => q.contains quote).getD [quote]])
  | best :: others =>
    if startsWithLast best then
      (escaped.dropLast ++ ['\\'] ++ escaped.getLast?.toList, best :: others)
    else (escaped, best :: others)

/-- A text between quotes, without backslashes where that can be. -/
def encloseText (s : List Char) : List Char :=
  let (escaped, quotes) := enclosable false allQuotes s
  let quote := (quotes.head?).getD []
  quote ++ escaped ++ quote

/-- The pieces with the quotes that all of them allow; a piece that is plain text may have its
blanks escaped. -/
def commonQuotes : List Quotes → List (List Char × Bool) → Option (List Char × List Quotes)
  | quotes, [] => some ([], quotes)
  | quotes, (piece, isPlain) :: rest =>
    let (escaped, allowed) := enclosable isPlain quotes piece
    if allowed.any fun q => quotes.contains q then
      (commonQuotes allowed rest).map fun (r, q) => (escaped ++ r, q)
    else none

/-- The body of a formatted text between quotes. -/
def encloseFormatted (pieces : List (List Char × Bool)) : List Char :=
  match commonQuotes allQuotes pieces with
  | some (body, quotes) =>
    let quote := (quotes.head?).getD []
    quote ++ body ++ quote
  | none =>
    let quote := ['\'', '\'', '\'']
    quote ++ pieces.flatMap (fun p => p.1.flatMap (quoteChar '\'')) ++ quote

/-- Numbers beyond the range are written so that they read back as infinite. -/
def finiteText : List Char → List Char
  | 'i' :: 'n' :: 'f' :: r => "1e309".toList ++ finiteText r
  | 'n' :: 'a' :: 'n' :: r => "(1e309-1e309)".toList ++ finiteText r
  | c :: r => c :: finiteText r
  | [] => []

/-- The constant as source; `inFormatted` tells that it stands in a formatted text. -/
def Constant.write (inFormatted : Bool) : Constant → List Char
  | none => "None".toList
  | bool b => (if b then "True" else "False").toList
  | int n => (toString n).toList
  | float text => finiteText text.toList
  | imaginary text => finiteText text.toList
  | str s marked =>
    (if marked then ['u'] else []) ++
      if inFormatted then encloseText s.toList else (quoted s).toList
  | bytes b => (quotedBytes b).toList
  | ellipsis => ['.', '.', '.']

end Conformance.Offside
