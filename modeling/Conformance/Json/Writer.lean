import Conformance.Value.Literal

/-! # Writing JSON

* `Json.write`: a value on one line. Keys that are not text, and scalars that JSON lacks, are
  written as the text that messages show for them.
-/

namespace Conformance.Json
open Text
set_option autoImplicit false

def writeChar (c : Char) : List Char :=
  if c = '"' || c = '\\' then ['\\', c]
  else if c.toNat < 32 then ['\\', 'u'] ++ hex 4 c.toNat
  else [c]

def writeString (s : String) : String :=
  String.ofList ('"' :: s.toList.flatMap writeChar ++ ['"'])

def writeScalar : Scalar → String
  | .null => "null"
  | .bool b => if b then "true" else "false"
  | .int n => toString n
  | .str s => writeString s
  | other => writeString other.literal

def writeKey : Scalar → String
  | .str s => writeString s
  | other => writeString other.literal

mutual

def write : Value → String
  | .scalar s => writeScalar s
  | .list items | .tuple items => "[" ++ String.intercalate "," (writeItems items) ++ "]"
  | .set members => "[" ++ String.intercalate "," (members.map writeScalar) ++ "]"
  | .map entries => "\x7b" ++ String.intercalate "," (writeEntries entries) ++ "\x7d"
  | .cycle _ => "null"

def writeItems : List Value → List String
  | [] => []
  | v :: rest => write v :: writeItems rest

def writeEntries : List (Scalar × Value) → List String
  | [] => []
  | (key, v) :: rest => (writeKey key ++ ":" ++ write v) :: writeEntries rest

end

end Conformance.Json
