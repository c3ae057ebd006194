import Conformance.Yaml.Node
import Conformance.Yaml.Number

/-! # Values of YAML documents

* `Node.merged`: the tree with merge keys replaced by the entries they draw in.
* `Node.value`: the value of a tree.
* `document`: the value of a text.

Collections are filled level by level, so of several faults the one nearest the root is reported,
and of those the first.
-/

namespace Conformance.Yaml
set_option autoImplicit false

namespace Node

/-! ## Merge keys -/

def entries? : Node → Option (List (Node × Node))
  | .mapping _ entries => some entries
  | .back true => some []
  | _ => none

/-- The entries drawn in by the value of a merge key: those of a mapping, or of the mappings of a
sequence, later ones first. -/
def drawnFrom? : Node → Option (List (Node × Node))
  | .sequence _ items => (items.mapM entries?).map fun l => l.reverse.flatten
  | n => n.entries?

def isMergeKey : Node → Bool
  | .scalar .merge _ => true
  | .sequence .merge _ => true
  | .mapping .merge _ => true
  | _ => false

/-- An entry that has no value. -/
def noEntry : Node × Node := (.scalar .unknown "", empty)

/-- Merge keys give way to the entries they draw in, which come before the mapping's own. -/
def mergedEntries (entries : List (Node × Node)) : List (Node × Node) :=
  let own := entries.filter fun e => !isMergeKey e.1
  match (entries.filter fun e => isMergeKey e.1).mapM fun e => drawnFrom? e.2 with
  | some drawn => drawn.flatten ++ own
  | none => [noEntry]

mutual

def merged : Node → Node
  | .scalar tag text => .scalar tag text
  | .sequence tag items => .sequence tag (mergedItems items)
  | .mapping tag entries => .mapping tag (mergedEntries (mergedPairs entries))
  | .back b => .back b

def mergedItems : List Node → List Node
  | [] => []
  | n :: rest => merged n :: mergedItems rest

def mergedPairs : List (Node × Node) → List (Node × Node)
  | [] => []
  | (k, v) :: rest => (merged k, merged v) :: mergedPairs rest

end

/-! ## Scalars -/

/-- The text of a scalar, or of the scalar under a mapping's default key. -/
def text? : Node → Option String
  | .scalar _ text => some text
  | .mapping _ entries => textOfDefault? entries
  | _ => none
where
  textOfDefault? : List (Node × Node) → Option String
    | [] => none
    | (.scalar .default _, v) :: _ => text? v
    | _ :: rest => textOfDefault? rest

def truth (s : String) : Except Fault Scalar :=
  match Tag.truthWords.lookup (String.ofList (s.toList.map Char.toLower)) with
  | some b => .ok (.bool b)
  | none => .error .malformed

def time (s : String) : Except Fault Scalar :=
  match TimeText.read? true s.toList with
  | some t => t.scalar
  | none => .error .malformed

/-! ## Binary data -/

def sixBits? (c : Char) : Option Nat :=
  if c.isUpper then some (c.toNat - 65)
  else if c.isLower then some (c.toNat - 71)
  else if c.isDigit then some (c.toNat + 4)
  else if c = '+' then some 62
  else if c = '/' then some 63
  else none

/-- The bytes of a text in groups of four characters with six bits each. `held` are the bits not
yet given out, and `count` the characters of the group so far. A group filled up with padding is
the last one; other characters are passed over. -/
def bytes? : List Char → Nat → Nat → Nat → Option (List UInt8)
  | [], count, _, _ => if count = 0 then some [] else none
  | c :: r, count, held, pads =>
    if c = '=' then
      if count ≥ 2 && count + pads + 1 ≥ 4 then some []
      else bytes? r count held (if count ≥ 2 then pads + 1 else pads)
    else
      match sixBits? c with
      | none => bytes? r count held pads
      | some six =>
        let bits := held * 64 + six
        match count with
        | 0 => bytes? r 1 bits 0
        | 1 => (bytes? r 2 (bits % 16) 0).map (UInt8.ofNat (bits / 16) :: ·)
        | 2 => (bytes? r 3 (bits % 4) 0).map (UInt8.ofNat (bits / 4) :: ·)
        | _ => (bytes? r 0 0 0).map (UInt8.ofNat bits :: ·)

def binary (s : String) : Except Fault Scalar :=
  let bytes := if s.toList.all fun c => c.toNat < 128 then bytes? s.toList 0 0 0 else none
  match bytes with
  | some b => .ok (.bytes b)
  | none => .error .malformed

/-- The scalar of a type with a text. -/
def scalarOf (tag : Tag) (text : String) : Except Fault Scalar :=
  match tag with
  | .null => .ok .null
  | .bool => truth text
  | .int => (integer text).map .int
  | .float => (decimal text).map .float
  | .str => .ok (.str text)
  | .binary => binary text
  | .timestamp => time text
  | _ => .error .malformed

/-! ## Values -/

/-- A fault and how deep it lies. -/
abbrev Deep := Nat × Fault

/-- Both parts; of two faults the one that lies less deep, or else the first. -/
def both {α β : Type} (a : Except Deep α) (b : Except Deep β) : Except Deep (α × β) :=
  match a, b with
  | .ok x, .ok y => .ok (x, y)
  | .error e, .ok _ => .error e
  | .ok _, .error e => .error e
  | .error e, .error f => .error (if f.1 < e.1 then f else e)

/-- Keys are scalars. -/
def asKey (depth : Nat) : Value → Except Deep Scalar
  | .scalar s => .ok s
  | _ => .error (depth, .malformed)

def mapOf (entries : List (Scalar × Value)) : List (Scalar × Value) :=
  entries.foldl (fun m e => Value.insert e.1 e.2 m) []

def leaf (depth : Nat) (n : Node) (tag : Tag) : Except Deep Value :=
  match n.text? with
  | some text =>
    match scalarOf tag text with
    | .ok s => .ok (.scalar s)
    | .error f => .error (depth, f)
  | none => .error (depth, .malformed)

mutual

def valueAt (depth : Nat) : Node → Except Deep Value
  | .scalar tag text => leaf depth (.scalar tag text) tag
  | .sequence tag items =>
    match tag with
    | .seq => (valuesAt (depth + 1) items).map .list
    | .omap | .pairs => (singlesAt (depth + 1) items).map .list
    | _ => .error (depth, .malformed)
  | .mapping tag entries =>
    match tag with
    | .map => (entriesAt (depth + 1) entries).map fun l => .map (mapOf l)
    | .set => (entriesAt (depth + 1) entries).map fun l => .set ((mapOf l).map Prod.fst)
    | _ => leaf depth (.mapping tag entries) tag
  | .back isMapping => .ok (.cycle isMapping)

def valuesAt (depth : Nat) : List Node → Except Deep (List Value)
  | [] => .ok []
  | n :: rest => (both (valueAt depth n) (valuesAt depth rest)).map fun (v, l) => v :: l

/-- The items of a list of pairs: mappings of one entry. -/
def singlesAt (depth : Nat) : List Node → Except Deep (List Value)
  | [] => .ok []
  | .mapping _ [(k, v)] :: rest =>
    (both (both (valueAt depth k) (valueAt depth v)) (singlesAt depth rest)).map
      fun ((k, v), l) => .tuple [k, v] :: l
  | _ :: _ => .error (depth, .malformed)

def entriesAt (depth : Nat) : List (Node × Node) → Except Deep (List (Scalar × Value))
  | [] => .ok []
  | (k, v) :: rest =>
    let key : Except Deep Scalar :=
      match k with
      | .scalar .default text => .ok (.str text)
      | k => valueAt depth k >>= asKey depth
    (both (both key (valueAt depth v)) (entriesAt depth rest)).map fun ((k, v), l) => (k, v) :: l

end

/-- The value of a tree. -/
def value (n : Node) : Except Fault Value :=
  match n.merged.valueAt 0 with
  | .ok v => .ok v
  | .error (_, f) => .error f

end Node

/-- The value of a text; an empty text counts as null. -/
def document (s : String) : Except Fault Value := do
  let tokens ← Token.ofText s
  match ← Node.ofTokens tokens with
  | some n => n.value
  | none => pure .null

end Conformance.Yaml
