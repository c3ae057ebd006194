/-! # Data values

The values that a configuration document, or a contract in exchange form, may hold. Mappings keep
the order of their keys.

* `Scalar`, `Value`: the values.
* `Value.get?`: the value under a text key.
* `Value.insert`: a key that is there keeps its place and takes the new value.
-/

namespace Conformance
set_option autoImplicit false

/-- A point in time, with its distance from universal time in minutes if that is known. -/
structure Moment where
  year : Nat
  month : Nat
  day : Nat
  hour : Nat
  minute : Nat
  second : Nat
  microsecond : Nat
  zone : Option Int

inductive Scalar where
  | null
  | bool (b : Bool)
  | int (n : Int)
  | float (x : Float)
  | str (s : String)
  | bytes (b : List UInt8)
  | date (year month day : Nat)
  | moment (m : Moment)

inductive Value where
  | scalar (s : Scalar)
  | list (items : List Value)
  | tuple (items : List Value)
  | set (members : List Scalar)
  | map (entries : List (Scalar × Value))
  /-- A collection that holds itself, at the place where it comes round. -/
  | cycle (isMap : Bool)

namespace Scalar

/-- The integer that a number or truth value equals, if there is one. -/
def integer? : Scalar → Option Int
  | bool b => some (if b then 1 else 0)
  | int n => some n
  | float x =>
    if x.floor == x && x.abs < 9007199254740992.0 then
      some (if x < 0 then -(((-x).toUInt64).toNat : Int) else (x.toUInt64.toNat : Int))
    else none
  | _ => none

/-- Equality of keys: numbers and truth values are compared by what they count. -/
def sameKey (a b : Scalar) : Bool :=
  match integer? a, integer? b with
  | some m, some n => m == n
  | none, none =>
    match a, b with
    | null, null => true
    | float x, float y => x == y || (x.isNaN && y.isNaN)
    | str s, str t => s == t
    | bytes s, bytes t => s == t
    | date y m d, date y' m' d' => y == y' && m == m' && d == d'
    | moment m, moment n =>
      m.year == n.year && m.month == n.month && m.day == n.day && m.hour == n.hour &&
        m.minute == n.minute && m.second == n.second && m.microsecond == n.microsecond &&
        m.zone == n.zone
    | _, _ => false
  | _, _ => false

end Scalar

namespace Value

@[match_pattern] def null : Value := .scalar .null
@[match_pattern] def bool (b : Bool) : Value := .scalar (.bool b)
@[match_pattern] def int (n : Int) : Value := .scalar (.int n)
@[match_pattern] def str (s : String) : Value := .scalar (.str s)

def nat (n : Nat) : Value := .int n

/-- A mapping with text keys. -/
def record (fields : List (String × Value)) : Value :=
  .map (fields.map fun f => (.str f.1, f.2))

def hasTextKey (key : String) (e : Scalar × Value) : Bool :=
  match e.1 with
  | .str s => s == key
  | _ => false

/-- The value under the text key among the entries. -/
def lookup? (entries : List (Scalar × Value)) (key : String) : Option Value :=
  (entries.find? (hasTextKey key)).map Prod.snd

def get? : Value → String → Option Value
  | .map entries, key => lookup? entries key
  | _, _ => none

def insert (key : Scalar) (v : Value) : List (Scalar × Value) → List (Scalar × Value)
  | [] => [(key, v)]
  | e :: rest => if e.1.sameKey key then (e.1, v) :: rest else e :: insert key v rest

end Value

end Conformance
