import Conformance.Text.Class

/-! # Quoted text

Text as it is shown in messages: between single quotes, or between double quotes if it holds single
quotes only. Backslashes, the enclosing quote, line ends and tabs have short escapes; other
characters that are not printable are written by their number.
-/

namespace Conformance.Text
set_option autoImplicit false

/-- Lower-case hexadecimal digits, at least `width` of them. -/
def hex (width n : Nat) : List Char :=
  let digits := Nat.toDigits 16 n
  List.replicate (width - digits.length) '0' ++ digits

/-- The quote that encloses the text. -/
def enclosingQuote (cs : List Char) : Char :=
  if cs.contains '\'' && !cs.contains '"' then '"' else '\''

def escapeByNumber (n : Nat) : List Char :=
  if n < 0x100 then ['\\', 'x'] ++ hex 2 n
  else if n < 0x10000 then ['\\', 'u'] ++ hex 4 n
  else ['\\', 'U'] ++ hex 8 n

def quoteChar (quote c : Char) : List Char :=
  if c = '\\' || c = quote then ['\\', c]
  else if c = '\n' then ['\\', 'n']
  else if c = '\r' then ['\\', 'r']
  else if c = '\t' then ['\\', 't']
  else if isPrintable c then [c]
  else escapeByNumber c.toNat

def quotedWith (quote : Char) (cs : List Char) : List Char :=
  quote :: cs.flatMap (quoteChar quote) ++ [quote]

def quoted (s : String) : String :=
  String.ofList (quotedWith (enclosingQuote s.toList) s.toList)

/-- A byte string: ASCII as in text, other bytes by number. -/
def quotedBytes (bytes : List UInt8) : String :=
  let cs := bytes.map fun b => Char.ofNat b.toNat
  let quote := enclosingQuote cs
  String.ofList ('b' :: quote :: (cs.flatMap fun c =>
    if c.toNat < 128 then quoteChar quote c else escapeByNumber c.toNat) ++ [quote])

end Conformance.Text
