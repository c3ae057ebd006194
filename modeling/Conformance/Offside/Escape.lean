import Conformance.Json.Reader

/-! # Escapes in quoted texts

* `unescapeText`, `unescapeBytes`: what the characters between quotes stand for. An unknown escape
  stands for itself; one that is cut short is refused.
* `namedCharacter?`: characters given by name, without the table of names.
-/

namespace Conformance.Offside
set_option autoImplicit false

def isOctal (c : Char) : Bool := '0' ≤ c && c ≤ '7'

def simpleEscape? : Char → Option Char
  | '\\' => some '\\'
  | '\'' => some '\''
  | '"' => some '"'
  | 'a' => some '\x07'
  | 'b' => some '\x08'
  | 'f' => some '\x0c'
  | 'n' => some '\n'
  | 'r' => some '\r'
  | 't' => some '\t'
  | 'v' => some '\x0b'
  | _ => none

/-- The value of digits in a base. -/
def digitsValue (base : Nat) (cs : List Char) : Nat :=
  cs.foldl (fun n c => n * base + (Json.hexDigit? c).getD 0) 0

/-- The value of exactly `n` hexadecimal digits, and what follows. -/
def hexDigits? (n : Nat) (cs : List Char) : Option (Nat × List Char) :=
  let ds := cs.take n
  if ds.length = n && ds.all fun c => (Json.hexDigit? c).isSome then
    some (digitsValue 16 ds, cs.drop n)
  else none

/-- A code point; a surrogate stands for the replacement character. -/
def codePoint? (n : Nat) : Option Char :=
  if 0x10ffff < n then none
  else some (if 0xd800 ≤ n && n < 0xe000 then '\ufffd' else Char.ofNat n)

/-- Names of characters are spelt with these. -/
def isCharacterNamePart (c : Char) : Bool := c.isAlphanum || c == ' ' || c == '-'

/-- What a character named behind a backslash stands for, and what follows. The table of names is left
out. So a name that no character has is not refused if it is spelt like one, and a named character is
not known: the replacement character stands in its place. -/
def namedCharacter? (cs : List Char) : Option (Char × List Char) :=
  match cs with
  | '\x7b' :: r =>
    let name := r.takeWhile (· != '\x7d')
    if name.isEmpty || name.length = r.length || !name.all isCharacterNamePart then none
    else some ('\ufffd', r.drop (name.length + 1))
  | _ => none

/-- What stands behind a backslash: the characters it stands for, and what follows. -/
def escape? (c : Char) (r : List Char) : Option (List Char × List Char) :=
  if isOctal c then
    let ds := (r.take 2).takeWhile isOctal
    (codePoint? (digitsValue 8 (c :: ds))).map fun x => ([x], r.drop ds.length)
  else
    let byNumber (n : Nat) : Option (List Char × List Char) := do
      let (value, r) ← hexDigits? n r
      let x ← codePoint? value
      pure ([x], r)
    match c with
    | '\n' => some ([], r)
    | 'x' => byNumber 2
    | 'u' => byNumber 4
    | 'U' => byNumber 8
    | 'N' => (namedCharacter? r).map fun (x, r) => ([x], r)
    | _ =>
      match simpleEscape? c with
      | some x => some ([x], r)
      | none => some (['\\', c], r)

def unescapeFrom : Nat → List Char → Option (List Char)
  | 0, _ => none
  | _, [] => some []
  | fuel + 1, '\\' :: c :: r => do
    let (cs, r) ← escape? c r
    let rest ← unescapeFrom fuel r
    pure (cs ++ rest)
  | fuel + 1, c :: r => (unescapeFrom fuel r).map (c :: ·)

def unescapeText (cs : List Char) : Option (List Char) := unescapeFrom (cs.length + 1) cs

/-! ## Bytes -/

def byteEscape? (c : Char) (r : List Char) : Option (List Nat × List Char) :=
  if isOctal c then
    let ds := (r.take 2).takeWhile isOctal
    some ([digitsValue 8 (c :: ds) % 256], r.drop ds.length)
  else
    match c with
    | '\n' => some ([], r)
    | 'x' => (hexDigits? 2 r).map fun (n, r) => ([n], r)
    | _ =>
      match simpleEscape? c with
      | some x => some ([x.toNat], r)
      | none => some ([92, c.toNat], r)

def unescapeBytesFrom : Nat → List Char → Option (List Nat)
  | 0, _ => none
  | _, [] => some []
  | fuel + 1, '\\' :: c :: r => do
    let (bs, r) ← byteEscape? c r
    let rest ← unescapeBytesFrom fuel r
    pure (bs ++ rest)
  | fuel + 1, c :: r => (unescapeBytesFrom fuel r).map (c.toNat :: ·)

/-- The bytes of a text of ASCII characters. -/
def unescapeBytes (isRaw : Bool) (cs : List Char) : Option (List UInt8) :=
  if cs.all fun c => c.toNat < 128 then
    (if isRaw then some (cs.map Char.toNat) else unescapeBytesFrom (cs.length + 1) cs).map
      fun l => l.map UInt8.ofNat
  else none

end Conformance.Offside
