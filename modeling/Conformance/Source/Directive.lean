import Conformance.Text.Trim

/-! # Interpreter directives

A source may start with a line `#!…` that names its interpreter. `withoutDirective` puts a comment
in its place and keeps the line end.
-/

namespace Conformance.Source
open Text
set_option autoImplicit false

/-- The text from its first line end on. -/
def fromLineEnd (cs : List Char) : List Char := cs.dropWhile (· ≠ '\n')

def withoutDirective (commentMark source : String) : String :=
  match after? ['#', '!'] source.toList with
  | some rest => commentMark ++ " (shebang removed)" ++ String.ofList (fromLineEnd rest)
  | none => source

end Conformance.Source
