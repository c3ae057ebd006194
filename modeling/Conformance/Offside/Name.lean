import Conformance.Text.Class
import Conformance.Text.Normal
import Conformance.Text.Trim

/-! # Names in indentation-structured modules

* `Identifier`: a word that has the form of an identifier, as it is written.
* `ModuleName`: identifiers with dots between them.
-/

namespace Conformance.Offside
open Text
set_option autoImplicit false

def isIdentifier (cs : List Char) : Bool :=
  headIs isIdentifierStart cs && cs.all isIdentifierChar

/-- A word that has the form of an identifier. Keywords have it, too. -/
structure Identifier where
  text : String
  isIdentifier : isIdentifier text.toList = true

namespace Identifier

def ofChars? (cs : List Char) : Option Identifier :=
  if h : Offside.isIdentifier cs = true then
    some ⟨String.ofList cs, by rwa [String.toList_ofList]⟩
  else none

/-- What the identifier is known by, however it is written. -/
def normal (i : Identifier) : String := normalIdentifier i.text

end Identifier

/-- The name of a module below others. -/
structure ModuleName where
  first : Identifier
  rest : List Identifier

def ModuleName.text (m : ModuleName) : String :=
  ".".intercalate (m.first.normal :: m.rest.map Identifier.normal)

instance : ToString ModuleName := ⟨ModuleName.text⟩

end Conformance.Offside
