/-! # Line ends

* `Text.unifyLineEnds`: line ends of all three kinds as line feeds.
-/

namespace Conformance.Text
set_option autoImplicit false

/-- Carriage returns, and those before line feeds, as single line feeds. -/
def unifyLineEnds : List Char → List Char
  | '\r' :: '\n' :: r => '\n' :: unifyLineEnds r
  | '\r' :: r => '\n' :: unifyLineEnds r
  | c :: r => c :: unifyLineEnds r
  | [] => []

end Conformance.Text
