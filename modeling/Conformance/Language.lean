/-! # Implementation languages

A language is known by its name. Each known one has the extensions its files are stored under, the
first being the usual one; only some have an outliner, a reader of source text that builds an
outline.
-/

namespace Conformance
set_option autoImplicit false

inductive Language where
  | typescript | javascript | python | rust
  deriving DecidableEq, Repr

namespace Language

def all : List Language := [typescript, javascript, python, rust]

def name : Language → String
  | typescript => "typescript"
  | javascript => "javascript"
  | python => "python"
  | rust => "rust"

def ofName? (s : String) : Option Language := all.find? fun l => l.name == s

def extensions : Language → List String
  | typescript => [".ts", ".tsx"]
  | javascript => [".js", ".jsx"]
  | python => [".py"]
  | rust => [".rs"]

/-- The extensions of a language given by name; none for an unknown one. -/
def extensionsOf (name : String) : List String := ((ofName? name).map extensions).getD []

end Language

/-- What reads source text into outlines: one for the two script languages, one for modules
structured by indentation. -/
inductive Outliner where
  | script | module
  deriving DecidableEq, Repr

/-- An outliner was asked for that there is none of. -/
structure UnsupportedLanguage where
  name : String

def UnsupportedLanguage.message (u : UnsupportedLanguage) : String :=
  "No semantic model builder for language: " ++ u.name

namespace Outliner

def ofLanguage? : Language → Option Outliner
  | .typescript | .javascript => some script
  | .python => some module
  | .rust => none

def ofName? (name : String) : Option Outliner := (Language.ofName? name).bind ofLanguage?

def require (name : String) : Except UnsupportedLanguage Outliner :=
  match ofName? name with
  | some o => .ok o
  | none => .error ⟨name⟩

/-- The language that its outlines carry. -/
def language : Outliner → Language
  | script => .typescript
  | module => .python

def extensions : Outliner → List String
  | script => [".ts", ".tsx", ".js", ".jsx", ".mts", ".cts"]
  | module => [".py", ".pyi"]

def commentMark : Outliner → String
  | script => "//"
  | module => "#"

/-- Whether the file's name has one of the extensions. -/
def accepts (o : Outliner) (file : String) : Bool := o.extensions.any fun e => file.endsWith e

/-- The names of the languages that have an outliner, in ascending order. -/
def languages : List String :=
  ((Language.all.filter fun l => (ofLanguage? l).isSome).map Language.name).mergeSort fun a b => a ≤ b

end Outliner

end Conformance
