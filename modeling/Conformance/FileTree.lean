import Conformance.Path
import Conformance.Text.Lines

/-! # Trees of files

Directories and files by the names that lead to them from the root. A path is followed name by name:
`..` leads back only out of a directory that is there.

* `FileTree.entry?`: what a path leads to.
* `FileTree.text?`: the text of a file.
* `FileTree.write`, `FileTree.makeDirectory`, `FileTree.remove`: changes.
-/

namespace Conformance
open Text
set_option autoImplicit false

inductive Entry where
  | directory
  | file (content : ByteArray)

/-- The names that lead from the root to a location, the last one first. None of them is `..`. -/
abbrev Location := List String

structure FileTree where
  entries : List (Location × Entry)
  /-- The directory that relative paths start from. -/
  current : Path

namespace FileTree

/-! ## Looking up -/

/-- What stands at a location. The root is always there. -/
def at? (t : FileTree) (location : Location) : Option Entry :=
  if location.isEmpty then some .directory
  else (t.entries.find? fun e => e.1 == location).map Prod.snd

def isDirectoryAt (t : FileTree) (location : Location) : Bool :=
  match t.at? location with
  | some .directory => true
  | _ => false

/-- The location that names lead to from another one. Every step leads out of a directory. -/
def follow (t : FileTree) : Location → List String → Option Location
  | location, [] => some location
  | location, name :: rest =>
    if t.isDirectoryAt location then
      follow t (if name = ".." then location.tail else name :: location) rest
    else none

/-- The path from the root on. -/
def absolute (t : FileTree) (p : Path) : Path := t.current.join p

def location? (t : FileTree) (p : Path) : Option Location := t.follow [] (t.absolute p).names

/-- What a path leads to. -/
def entry? (t : FileTree) (p : Path) : Option Entry := (t.location? p).bind t.at?

def exists? (t : FileTree) (p : Path) : Bool := (t.entry? p).isSome

def isFile (t : FileTree) (p : Path) : Bool :=
  match t.entry? p with
  | some (.file _) => true
  | _ => false

/-- The text of a file in UTF-8, with all line ends as line feeds; nothing if the path leads to no
file or the file holds no such text. -/
def text? (t : FileTree) (p : Path) : Option String :=
  match t.entry? p with
  | some (.file content) =>
    (String.fromUTF8? content).map fun s => String.ofList (unifyLineEnds s.toList)
  | _ => none

/-- The path from the root on with `..` resolved by name. -/
def resolved (t : FileTree) (p : Path) : Path := { (t.absolute p).normal with anchor := .root }

/-! ## Changing -/

def put (t : FileTree) (location : Location) (e : Entry) : FileTree :=
  { t with entries := (location, e) :: t.entries.filter fun old => old.1 != location }

/-- The tree with a directory at every location on the way, and the location the names lead to. -/
def makeWay (t : FileTree) : Location → List String → FileTree × Location
  | location, [] => (t, location)
  | location, name :: rest =>
    if name = ".." then makeWay t location.tail rest
    else
      let next := name :: location
      makeWay (if (t.at? next).isSome then t else t.put next .directory) next rest

/-- The tree with a directory, and the directories above it. -/
def makeDirectory (t : FileTree) (p : Path) : FileTree := (t.makeWay [] (t.absolute p).names).1

/-- The tree with a file, and the directories above it. -/
def write (t : FileTree) (p : Path) (content : ByteArray) : FileTree :=
  let (t, folder) := t.makeWay [] (t.absolute p).parent.names
  t.put (p.name :: folder) (.file content)

/-- The tree without the file or directory at a path and all that is below it. -/
def remove (t : FileTree) (p : Path) : FileTree :=
  match t.location? p with
  | some location => { t with entries := t.entries.filter fun e => !location.isSuffixOf e.1 }
  | none => t

/-- The tree that holds nothing but the current directory. -/
def empty (current : Path) : FileTree := makeDirectory ⟨[], current⟩ current

end FileTree

end Conformance
