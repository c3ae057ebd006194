import Conformance.Text.Trim

/-! # Keywords in clause text

Keywords are compared without regard to case. Besides the two ASCII cases, a few letters count as
an ASCII one because a case mapping leads to it: the long s, the Kelvin sign, the dotless i and
the capital dotted I.

* `isFormOf lower c`: `c` is a form of the lower-case ASCII letter `lower`.
* `keyword? words text`: what follows one of the words when it stands at the head of the text with
  no word character behind it.
* `hasKeyword`: one of the words occurs with no word character on either side.
-/

namespace Conformance.Text
set_option autoImplicit false

/-- The character is the given lower-case letter in one of its cases. The Kelvin sign is written by its
number: it cannot be told from the letter by eye, and normal forms replace it. -/
def isFormOf (lower c : Char) : Bool :=
  c == lower || c == lower.toUpper || (lower == 's' && c == 'ſ') || (lower == 'k' && c == '\u212a') ||
    (lower == 'i' && (c == 'ı' || c == 'İ'))

/-- What follows the lower-case word at the head of the text, case apart. -/
def afterFolded? : List Char → List Char → Option (List Char)
  | [], text => some text
  | _ :: _, [] => none
  | p :: ps, c :: text => if isFormOf p c then afterFolded? ps text else none

def keyword? (words : List String) (text : List Char) : Option (List Char) :=
  words.findSome? fun word =>
    (afterFolded? word.toList text).filter fun rest => !headIs isWordChar rest

/-- Whether a keyword occurs; `joined` tells that a word character stands before the text. -/
def hasKeywordFrom (words : List String) : Bool → List Char → Bool
  | _, [] => false
  | joined, c :: r =>
    (!joined && (keyword? words (c :: r)).isSome) || hasKeywordFrom words (isWordChar c) r

def hasKeyword (words : List String) (text : String) : Bool :=
  hasKeywordFrom words false text.toList

/-- Lower case, as far as it can lead to ASCII. -/
def lowerAscii (c : Char) : Char := if c == '\u212a' then 'k' else c.toLower

end Conformance.Text
