import Conformance.Yaml.Tag
import Conformance.Yaml.Token

/-! # Nodes of a YAML document

* `Node`: the tree of a document, with its aliases put in.
* `Node.ofTokens`: the tree that a list of tokens stands for.

An alias to a collection that is still open gives `Node.back`.
-/

namespace Conformance.Yaml
set_option autoImplicit false

inductive Node where
  | scalar (tag : Tag) (text : String)
  | sequence (tag : Tag) (items : List Node)
  | mapping (tag : Tag) (entries : List (Node × Node))
  /-- A collection inside itself. -/
  | back (isMapping : Bool)

namespace Node

def empty : Node := .scalar .null ""

instance : Inhabited Node := ⟨empty⟩

/-- Tokens not yet read, and the nodes that anchors stand for. -/
structure State where
  tokens : List Token
  anchors : List (String × Node)

/-- What a document's directives say about tags. -/
abbrev Handles := List (String × String)

def defaultHandles : Handles := [("!", "!"), ("!!", Tag.uriStart)]

namespace State

def head? (s : State) : Option Token := s.tokens.head?

def drop (s : State) : State := { s with tokens := s.tokens.tail }

/-- One of the tokens stands ahead. -/
def sees (s : State) (l : List Token) : Bool := s.tokens.head?.any fun t => l.contains t

/-- Moves over the token, which has to stand ahead. -/
def expect (s : State) (t : Token) : Except Fault State :=
  if s.sees [t] then .ok s.drop else .error .malformed

def define (s : State) (anchor : Option String) (n : Node) : State :=
  match anchor with
  | some a => { s with anchors := (a, n) :: s.anchors }
  | none => s

end State

/-! ## Collections

Each of these reads the parts of a collection with `node`, which reads a node in a block, one that
may be a sequence without an indentation of its own, or one in a flow collection. -/

inductive Place where
  | block | blockOrIndentless | flow
  deriving DecidableEq

variable (node : Place → State → Except Fault (Node × State))

/-- A node, or the empty one if a token of `stop` stands ahead. -/
def optional (place : Place) (stop : List Token) (s : State) : Except Fault (Node × State) :=
  if s.sees stop then .ok (empty, s) else node place s

/-- What stands behind a colon, or the empty node if there is no colon. -/
def valueBehind (place : Place) (stop : List Token) (s : State) : Except Fault (Node × State) :=
  if s.sees [.value] then optional node place stop s.drop else .ok (empty, s)

def blockItems : Nat → List Node → State → Except Fault (List Node × State)
  | 0, _, _ => .error .malformed
  | fuel + 1, done, s =>
    if s.sees [.blockEntry] then do
      let (n, s) ← optional node .block [.blockEntry, .blockEnd] s.drop
      blockItems fuel (n :: done) s
    else do
      let s ← s.expect .blockEnd
      pure (done.reverse, s)

/-- The items of a sequence that lies at the column of the mapping around it. -/
def indentlessItems : Nat → List Node → State → Except Fault (List Node × State)
  | 0, _, _ => .error .malformed
  | fuel + 1, done, s =>
    if s.sees [.blockEntry] then do
      let (n, s) ← optional node .block [.blockEntry, .key, .value, .blockEnd] s.drop
      indentlessItems fuel (n :: done) s
    else .ok (done.reverse, s)

/-- The entries of a mapping in a block. Each of them starts with its key, which may be the empty node. -/
def blockEntries : Nat → List (Node × Node) → State →
    Except Fault (List (Node × Node) × State)
  | 0, _, _ => .error .malformed
  | fuel + 1, done, s =>
    let stop : List Token := [.key, .value, .blockEnd]
    if s.sees [.key] then do
      let (k, s) ← optional node .blockOrIndentless stop s.drop
      let (v, s) ← valueBehind node .blockOrIndentless stop s
      blockEntries fuel ((k, v) :: done) s
    else do
      let s ← s.expect .blockEnd
      pure (done.reverse, s)

/-- Moves over the comma before an item that is not the first. -/
def comma (first : Bool) (s : State) : Except Fault State :=
  if first then .ok s else s.expect .flowEntry

/-- The items of a flow sequence. One with a key is a mapping of that key alone. -/
def flowItems : Nat → List Node → State → Except Fault (List Node × State)
  | 0, _, _ => .error .malformed
  | fuel + 1, done, s =>
    if s.sees [.flowSequenceEnd] then .ok (done.reverse, s.drop)
    else do
      let s ← comma done.isEmpty s
      if s.sees [.key] then do
        let (k, s) ← optional node .flow [.value, .flowEntry, .flowSequenceEnd] s.drop
        let (v, s) ← valueBehind node .flow [.flowEntry, .flowSequenceEnd] s
        flowItems fuel (.mapping .map [(k, v)] :: done) s
      else if s.sees [.flowSequenceEnd] then pure (done.reverse, s.drop)
      else do
        let (n, s) ← node .flow s
        flowItems fuel (n :: done) s

def flowEntries : Nat → List (Node × Node) → State →
    Except Fault (List (Node × Node) × State)
  | 0, _, _ => .error .malformed
  | fuel + 1, done, s =>
    if s.sees [.flowMappingEnd] then .ok (done.reverse, s.drop)
    else do
      let s ← comma done.isEmpty s
      if s.sees [.key] then do
        let (k, s) ← optional node .flow [.value, .flowEntry, .flowMappingEnd] s.drop
        let (v, s) ← valueBehind node .flow [.flowEntry, .flowMappingEnd] s
        flowEntries fuel ((k, v) :: done) s
      else if s.sees [.flowMappingEnd] then pure (done.reverse, s.drop)
      else do
        let (n, s) ← node .flow s
        flowEntries fuel ((n, empty) :: done) s

/-! ## Nodes -/

/-- Anchor and tag in either order, with the tag's handle replaced by what it stands for. -/
structure Properties where
  anchor : Option String
  tag : Option String

def fullTag (handles : Handles) : Option String → String → Except Fault String
  | none, suffix => .ok suffix
  | some h, suffix =>
    match handles.lookup h with
    | some start => .ok (start ++ suffix)
    | none => .error .malformed

def properties (handles : Handles) (s : State) : Except Fault (Properties × State) :=
  let tagged (anchor handle : Option String) (suffix : String) (rest : List Token) :=
    (fullTag handles handle suffix).map fun tag =>
      ((⟨anchor, some tag⟩ : Properties), { s with tokens := rest })
  match s.tokens with
  | .anchor a :: .tag handle suffix :: r => tagged (some a) handle suffix r
  | .anchor a :: r => .ok (⟨some a, none⟩, { s with tokens := r })
  | .tag handle suffix :: .anchor a :: r => tagged (some a) handle suffix r
  | .tag handle suffix :: r => tagged none handle suffix r
  | _ => .ok (⟨none, none⟩, s)

namespace Properties

/-- The tag does not give a type. -/
def isOpen (p : Properties) : Bool := p.tag.isNone || p.tag == some "!"

def scalarTag (p : Properties) (isPlain : Bool) (text : String) : Tag :=
  match p.tag with
  | none => if isPlain then Tag.ofPlain text else .str
  | some "!" => Tag.ofPlain text
  | some uri => Tag.ofUri uri

def tagOr (p : Properties) (standard : Tag) : Tag :=
  if p.isOpen then standard else Tag.ofUri (p.tag.getD "")

/-- An anchor stands for one node only. -/
def isFree (p : Properties) (s : State) : Bool :=
  p.anchor.all fun a => (s.anchors.lookup a).isNone

end Properties

/-- A collection whose parts are read by `parts`; its anchor is known inside it. -/
def collection {α : Type} (p : Properties) (isMapping : Bool) (make : List α → Node)
    (parts : State → Except Fault (List α × State)) (s : State) :
    Except Fault (Node × State) := do
  let (l, s) ← parts (s.define p.anchor (.back isMapping))
  let n := make l
  pure (n, s.define p.anchor n)

def content (handles : Handles) (place : Place) (s : State) : Except Fault (Node × State) := do
  let (p, s) ← properties handles s
  if !p.isFree s then .error .malformed
  else
    let fuel := s.tokens.length + 1
    let seq := collection p false (.sequence (p.tagOr .seq))
    let map := collection p true (.mapping (p.tagOr .map))
    let inBlock := place != .flow
    let leaf (tag : Tag) (text : String) (s : State) : Except Fault (Node × State) :=
      let n := Node.scalar tag text
      .ok (n, s.define p.anchor n)
    match s.head? with
    | some (.scalar text isPlain) => leaf (p.scalarTag isPlain text) text s.drop
    | some .flowSequenceStart => seq (flowItems node fuel []) s.drop
    | some .flowMappingStart => map (flowEntries node fuel []) s.drop
    | t =>
      if place = .blockOrIndentless && t = some .blockEntry then
        seq (indentlessItems node fuel []) s
      else if inBlock && t = some .blockSequenceStart then seq (blockItems node fuel []) s.drop
      else if inBlock && t = some .blockMappingStart then map (blockEntries node fuel []) s.drop
      else if p.anchor.isSome || p.tag.isSome then leaf (p.scalarTag p.isOpen "") "" s
      else .error .malformed

/-- A node nested at most `fuel` deep. -/
def read (handles : Handles) : Nat → Place → State → Except Fault (Node × State)
  | 0, _, _ => .error .malformed
  | fuel + 1, place, s =>
    match s.tokens with
    | .aliasOf a :: r =>
      match s.anchors.lookup a with
      | some n => .ok (n, { s with tokens := r })
      | none => .error .malformed
    | _ => content (read handles fuel) handles place s

/-! ## Documents -/

def isDirective : Token → Bool
  | .versionDirective .. | .tagDirective .. | .otherDirective => true
  | _ => false

/-- The tag handles that directives define. The version must be 1, and nothing is defined twice. -/
def directives : Bool → Handles → List Token → Except Fault Handles
  | versioned, handles, t :: r =>
    match t with
    | .versionDirective major _ =>
      if versioned || major ≠ 1 then .error .malformed else directives true handles r
    | .tagDirective handle start =>
      if (handles.lookup handle).isSome then .error .malformed
      else directives versioned ((handle, start) :: handles) r
    | _ => directives versioned handles r
  | _, handles, [] => .ok handles

/-- The root of a document and the tokens behind it. -/
def root (handles : Handles) (tokens : List Token) : Except Fault (Node × List Token) := do
  let (n, s) ← read handles (tokens.length + 1) .block ⟨tokens, []⟩
  pure (n, s.tokens)

/-- A document behind its directives, which may be empty. -/
def explicit (tokens : List Token) : Except Fault (Node × List Token) := do
  let handles ← directives false [] (tokens.takeWhile isDirective)
  match tokens.dropWhile isDirective with
  | .documentStart :: r =>
    match r.head? with
    | some .documentStart | some .documentEnd | some .streamEnd => pure (empty, r)
    | some t => if isDirective t then pure (empty, r) else root (handles ++ defaultHandles) r
    | none => .error .malformed
  | _ => .error .malformed

/-- The root of the single document of a stream; none if the stream is empty. -/
def ofTokens (tokens : List Token) : Except Fault (Option Node) :=
  match tokens with
  | [.streamEnd] => .ok none
  | _ => do
    let marked := tokens.head?.any fun t => isDirective t || t = .documentStart
    let (n, rest) ← if marked then explicit tokens else root defaultHandles tokens
    if rest.dropWhile (· = .documentEnd) = [.streamEnd] then pure (some n) else .error .malformed

end Node

end Conformance.Yaml
