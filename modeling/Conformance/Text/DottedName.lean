import Conformance.Text.Trim

/-! # Dotted names

A dotted name is a run of names with single dots between them: `input.user.name`.

* `dottedName? text`: the longest dotted name at the head of the text.
* `dottedNames text`: those met by a search from left to right.
-/

namespace Conformance.Text
set_option autoImplicit false

/-- The longest run of name characters and of dots that a name follows. -/
def takeDotted : List Char → List Char
  | [] => []
  | c :: r =>
    if isNameChar c then c :: takeDotted r
    else if c == '.' && headIs isNameStart r then c :: takeDotted r
    else []

def dottedName? (text : List Char) : Option (List Char) :=
  if headIs isNameStart text then some (takeDotted text) else none

/-- The dotted names of the text, after passing over `skip` characters. -/
def dottedNamesFrom : Nat → List Char → List (List Char)
  | _, [] => []
  | skip + 1, _ :: r => dottedNamesFrom skip r
  | 0, c :: r =>
    match dottedName? (c :: r) with
    | some name => name :: dottedNamesFrom (name.length - 1) r
    | none => dottedNamesFrom 0 r

def dottedNames (text : List Char) : List (List Char) := dottedNamesFrom 0 text

end Conformance.Text
