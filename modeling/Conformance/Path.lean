import Conformance.Text.Trim

/-! # Paths

A path is an anchor and the names below it. Reading a path drops empty names and single dots and
keeps `..`; two leading slashes are an anchor of their own.

* `Path.ofString`, `Path.toString`: reading and writing.
* `Path.join`: an absolute right operand replaces the left one.
* `Path.parent`, `Path.name`, `Path.suffix`: the last name and what stands before it.
* `Path.normal`: the path with `..` resolved by name alone.
-/

namespace Conformance
open Text
set_option autoImplicit false

/-- Where a path starts. -/
inductive Anchor where
  | relative | root | doubleRoot
  deriving DecidableEq, Repr

namespace Anchor

def text : Anchor → String
  | relative => ""
  | root => "/"
  | doubleRoot => "//"

/-- Exactly two leading slashes are kept apart from one; more than two count as one. -/
def ofChars : List Char → Anchor
  | '/' :: '/' :: '/' :: _ => root
  | '/' :: '/' :: _ => doubleRoot
  | '/' :: _ => root
  | _ => relative

end Anchor

structure Path where
  anchor : Anchor
  names : List String
  deriving DecidableEq, Repr

namespace Path

def ofString (s : String) : Path where
  anchor := Anchor.ofChars s.toList
  names := (splitString '/' s).filter fun name => name != "" && name != "."

def toString (p : Path) : String :=
  if p.anchor = .relative && p.names.isEmpty then "."
  else p.anchor.text ++ String.intercalate "/" p.names

def isAbsolute (p : Path) : Bool := p.anchor != .relative

def join (p q : Path) : Path :=
  if q.isAbsolute then q else { p with names := p.names ++ q.names }

/-- The path extended by one written with slashes. -/
def child (p : Path) (s : String) : Path := p.join (ofString s)

/-- The path without its last name; the root and the empty path stay. -/
def parent (p : Path) : Path := { p with names := p.names.dropLast }

/-- The last name, empty if there is none. -/
def name (p : Path) : String := (p.names.getLast?).getD ""

/-- The part of the last name from its last dot on, if something stands on either side of it. -/
def suffix (p : Path) : String :=
  let name := p.name.toList
  let tail := lastSegmentChars name
  if tail.length + 1 < name.length && !tail.isEmpty then String.ofList ('.' :: tail) else ""

/-- One more name behind the names kept so far, the last one first. A `..` takes away the name
before it; at the root a leading one stays at the root, in a relative path it is kept. -/
def keepName (absolute : Bool) (kept : List String) (name : String) : List String :=
  if name != ".." then name :: kept
  else match kept with
    | [] => if absolute then [] else [name]
    | last :: rest => if last = ".." then name :: kept else rest

/-- The names that are left when each `..` has taken away the name before it. -/
def normalNames (absolute : Bool) (names : List String) : List String :=
  (names.foldl (keepName absolute) []).reverse

def normal (p : Path) : Path := { p with names := normalNames p.isAbsolute p.names }

/-- Joins as text: only a slash is put between, and nothing is dropped. -/
def joinText (a b : String) : String :=
  if b.startsWith "/" then b
  else if a.isEmpty || a.endsWith "/" then a ++ b
  else a ++ "/" ++ b

end Path

end Conformance
