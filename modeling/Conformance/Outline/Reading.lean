import Conformance.Language
import Conformance.Offside.Outline
import Conformance.Offside.Source
import Conformance.Script.Outline
import Conformance.Script.Source
import Conformance.Settings
import Conformance.Source.Directive

/-! # Outlining source text

* `Outliner.read`: what an outliner makes of a source.
-/

namespace Conformance
set_option autoImplicit false

/-- What a source is refused for before it is read. -/
inductive SourceRefusal where
  | nullInPath | nullInText
  deriving DecidableEq

def SourceRefusal.message : SourceRefusal → String
  | .nullInPath => "embedded null character"
  | .nullInText => "source code string cannot contain null bytes"

/-- What comes of reading a source. -/
inductive SourceReading where
  | outlined (o : Outline)
  /-- The source has syntax errors. -/
  | unreadable
  | refused (reason : SourceRefusal)

namespace Outliner

/-- The path has an extension of files with markup. -/
def hasMarkup (path : String) : Bool := path.endsWith ".tsx" || path.endsWith ".jsx"

def readScript (settings : Settings) (path source : String) : SourceReading :=
  let (tree, hasError) := Script.read (hasMarkup path) source
  match Script.outline? settings.recoverSyntaxErrors tree hasError with
  | some o => .outlined o
  | none => .unreadable

def hasNull (s : String) : Bool := s.contains (Char.ofNat 0)

def readModule (path source : String) : SourceReading :=
  if hasNull path then .refused .nullInPath
  else if hasNull source then .refused .nullInText
  else
    match Offside.Module.read? source with
    | some m => .outlined (Offside.outline m)
    | none => .unreadable

/-- What an outliner makes of a source at a path. -/
def read (o : Outliner) (settings : Settings) (path source : String) : SourceReading :=
  let text := Source.withoutDirective o.commentMark source
  match o with
  | script => readScript settings path text
  | module => readModule path text

end Outliner

end Conformance
