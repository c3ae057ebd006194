import Conformance.Text.WholeWord

/-! # Argument lists in source text

What stands between the parentheses of a call is found by counting parentheses outside string
literals, so that it works in text that no parser accepts.

* `argumentText`: the characters up to the closing parenthesis, given what follows the opening one.
* `argumentEnd`: the same as a position in the whole text.
* `argumentLists`: the argument lists of the calls that a recogniser of call heads finds.
-/

namespace Conformance.Call
open Text
set_option autoImplicit false

def isQuote (c : Char) : Bool := c == '"' || c == '\'' || c == '\x60'

/-- The characters before the parenthesis that closes `depth + 1` open ones. Inside a string
literal, which `quote` opened, only that quote and the backslash count. Text that ends first is
all argument. -/
def argumentTextFrom : Nat → Option Char → List Char → List Char
  | _, _, [] => []
  | _, some _, ['\\'] => ['\\']
  | depth, some q, '\\' :: c :: r => '\\' :: c :: argumentTextFrom depth (some q) r
  | depth, some q, c :: r => c :: argumentTextFrom depth (if c = q then none else some q) r
  | depth, none, c :: r =>
    if isQuote c then c :: argumentTextFrom depth (some c) r
    else if c = '(' then c :: argumentTextFrom (depth + 1) none r
    else if c = ')' then
      match depth with
      | 0 => []
      | depth + 1 => c :: argumentTextFrom depth none r
    else c :: argumentTextFrom depth none r

/-- The text of an argument list, given what follows its opening parenthesis. -/
def argumentText (rest : List Char) : List Char := argumentTextFrom 0 none rest

/-- Where the parenthesis is closed that stands at position `p`; the length of the text when it
never is. -/
def argumentEnd (text : List Char) (p : Nat) : Nat :=
  p + 1 + (argumentText (text.drop (p + 1))).length

/-- An argument list: the position behind its opening parenthesis, and its text. -/
structure ArgumentList where
  start : Nat
  text : List Char

namespace ArgumentList

/-- The position of the closing parenthesis. -/
def stop (a : ArgumentList) : Nat := a.start + a.text.length

def holds (a : ArgumentList) (pos : Nat) : Bool := a.start ≤ pos && pos < a.stop

end ArgumentList

/-- Searches for call heads from position `pos` on, after passing over `skip` characters. A head
may not follow a character that satisfies `joins` (`joined` tells whether one stands before the
text); `head?` gives what follows the opening parenthesis of a call at the head of the text. -/
def argumentListsFrom (joins : Char → Bool) (head? : List Char → Option (List Char)) :
    Nat → Nat → Bool → List Char → List ArgumentList
  | _, _, _, [] => []
  | pos, skip + 1, _, c :: r => argumentListsFrom joins head? (pos + 1) skip (joins c) r
  | pos, 0, joined, c :: r =>
    match (if joined then none else head? (c :: r)) with
    | some rest =>
      let width := (c :: r).length - rest.length
      ⟨pos + width, argumentText rest⟩ ::
        argumentListsFrom joins head? (pos + 1) (width - 1) (joins c) r
    | none => argumentListsFrom joins head? (pos + 1) 0 (joins c) r

/-- The argument lists of the calls met from left to right; the search for the next call goes on
behind the opening parenthesis, so that nested calls are met too. -/
def argumentLists (joins : Char → Bool) (head? : List Char → Option (List Char))
    (text : List Char) : List ArgumentList :=
  argumentListsFrom joins head? 0 0 false text

/-- What follows an opening parenthesis that only blanks precede. -/
def afterOpening? (text : List Char) : Option (List Char) :=
  match text.dropWhile isSpace with
  | '(' :: rest => some rest
  | _ => none

/-- Longer names first, names of one length in their given order. -/
def longestFirst (names : List String) : List (List Char) :=
  (names.map String.toList).mergeSort fun a b => b.length ≤ a.length

end Conformance.Call
