import Conformance.Text.Class

/-! # Leading and trailing characters

* `after? p text`: what is left of `text` when it starts with `p`.
* `trim`: a text without the blanks at its ends; `trimChars` strips a given set of characters.
* `lastSegment`: the part behind the last dot.
-/

namespace Conformance.Text
set_option autoImplicit false

/-- What follows `p` at the head of the text, if `p` stands there. -/
def after? : List Char → List Char → Option (List Char)
  | [], text => some text
  | _ :: _, [] => none
  | p :: ps, c :: text => if p = c then after? ps text else none

theorem after?_eq_some_iff {p text rest : List Char} :
    after? p text = some rest ↔ text = p ++ rest := by
  induction p generalizing text with
  | nil => simp [after?, eq_comm]
  | cons a p ih =>
    cases text with
    | nil => simp [after?]
    | cons c text =>
      by_cases h : a = c
      · simp [after?, h, ih]
      · simp [after?, h, Ne.symm h]

def trimBy (p : Char → Bool) (cs : List Char) : List Char :=
  ((cs.dropWhile p).reverse.dropWhile p).reverse

/-- The text without blanks at either end. -/
def trim (s : String) : String := String.ofList (trimBy isSpace s.toList)

/-- The text without the given characters at either end. -/
def trimChars (set : List Char) (s : String) : String :=
  String.ofList (trimBy (fun c => set.contains c) s.toList)

/-- The characters behind the last dot, all of them when there is none. -/
def lastSegmentChars : List Char → List Char
  | [] => []
  | c :: r => if r.contains '.' then lastSegmentChars r else if c = '.' then r else c :: r

/-- The last segment of a dotted path. -/
def lastSegment (path : String) : String := String.ofList (lastSegmentChars path.toList)

/-- The parts between the separators; their number is one more than that of the separators. -/
def splitOn (sep : Char) : List Char → List (List Char)
  | [] => [[]]
  | c :: r =>
    if c = sep then [] :: splitOn sep r
    else match splitOn sep r with
      | [] => [[c]]
      | part :: parts => (c :: part) :: parts

def splitString (sep : Char) (s : String) : List String :=
  (splitOn sep s.toList).map String.ofList

end Conformance.Text
