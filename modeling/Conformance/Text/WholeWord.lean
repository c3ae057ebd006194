import Conformance.Text.Trim

/-! # Whole words

A whole-word occurrence of a word is one with no name character directly before or behind it.

* `containsWord text word`: there is one. The empty word never occurs.
* `wordPositions word text`: where the occurrences start that a search from left to right meets,
  each search going on behind the occurrence before.
-/

namespace Conformance.Text
set_option autoImplicit false

/-- The word stands at the head of the text and no name character follows it. -/
def startsWithWord (word text : List Char) : Bool :=
  match after? word text with
  | some rest => !headIs isNameChar rest
  | none => false

/-- Whether the word occurs; `joined` tells that a name character stands before the text. -/
def hasWord (word : List Char) : Bool → List Char → Bool
  | _, [] => false
  | joined, c :: r => (!joined && startsWithWord word (c :: r)) || hasWord word (isNameChar c) r

def containsWord (text word : String) : Bool :=
  !word.isEmpty && hasWord word.toList false text.toList

/-- Start positions of the occurrences met from position `pos` on, after passing over `skip`
characters that belong to the occurrence before. -/
def wordPositionsFrom (word : List Char) : Nat → Nat → Bool → List Char → List Nat
  | _, _, _, [] => []
  | pos, skip + 1, _, c :: r => wordPositionsFrom word (pos + 1) skip (isNameChar c) r
  | pos, 0, joined, c :: r =>
    if !joined && startsWithWord word (c :: r) then
      pos :: wordPositionsFrom word (pos + 1) (word.length - 1) (isNameChar c) r
    else wordPositionsFrom word (pos + 1) 0 (isNameChar c) r

def wordPositions (word text : List Char) : List Nat := wordPositionsFrom word 0 0 false text

end Conformance.Text
