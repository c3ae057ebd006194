import Conformance.Text.DottedName

/-! # What a clause speaks of

* `subject?`: the dotted name a clause starts with, as in `input.name is String`.
* `resultType?`: the type in a clause of the form `result is AuthSuccess`.
-/

namespace Conformance.Clause
open Text
set_option autoImplicit false

def subject? (clause : String) : Option String :=
  (dottedName? (clause.toList.dropWhile isSpace)).map String.ofList

/-- What follows a word and at least one blank behind it. -/
def afterWord? (word text : List Char) : Option (List Char) :=
  (after? word text).bind fun rest =>
    if headIs isSpace rest then some (rest.dropWhile isSpace) else none

/-- The single name that a `result is` clause consists of, blanks around it apart. -/
def resultType? (clause : String) : Option String :=
  (afterWord? "result".toList (clause.toList.dropWhile isSpace)).bind fun rest =>
    (afterWord? "is".toList rest).bind fun rest =>
      if headIs isNameStart rest && (rest.dropWhile isNameChar).all isSpace then
        some (String.ofList (rest.takeWhile isNameChar))
      else none

end Conformance.Clause
