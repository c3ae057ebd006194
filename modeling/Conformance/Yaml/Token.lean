import Conformance.Yaml.Scalar

/-! # Tokens of a YAML text

The scanner turns indentation into tokens that open and close block collections, and finds out that
a scalar was a key only when it meets the colon behind it. It then puts the key's tokens in front of
that scalar.

* `Token`: the tokens.
* `Token.ofText`: the tokens of a whole text.
-/

namespace Conformance.Yaml
set_option autoImplicit false

inductive Token where
  | versionDirective (major minor : Nat)
  | tagDirective (handle start : String)
  | otherDirective
  | documentStart | documentEnd
  | blockSequenceStart | blockMappingStart | blockEnd
  | flowSequenceStart | flowSequenceEnd | flowMappingStart | flowMappingEnd
  | blockEntry | flowEntry | key | value
  | aliasOf (name : String)
  | anchor (name : String)
  /-- A tag: a handle, unless it is written in full, and the rest. -/
  | tag (handle : Option String) (suffix : String)
  | scalar (text : String) (isPlain : Bool)
  | streamEnd
  deriving DecidableEq

/-- A place where a key may have started. -/
structure KeyStart where
  flowLevel : Nat
  tokenNumber : Nat
  required : Bool
  index : Nat
  line : Nat
  column : Nat

structure Scanner where
  cur : Cursor
  tokens : Array Token
  flowLevel : Nat
  /-- The column of the innermost block collection, and those around it. -/
  indent : Int
  indents : List Int
  /-- A key may start here without a question mark. -/
  allowsKey : Bool
  keys : List KeyStart

namespace Scanner

def ofText (cs : List Char) : Scanner := ⟨Cursor.ofText cs, #[], 0, -1, [], true, []⟩

def inFlow (s : Scanner) : Bool := s.flowLevel != 0

def push (s : Scanner) (t : Token) : Scanner := { s with tokens := s.tokens.push t }

/-- Pushes a token of `width` characters and moves over them. -/
def take (s : Scanner) (width : Nat) (t : Token) : Scanner :=
  { s with tokens := s.tokens.push t, cur := s.cur.forward width }

def allow (s : Scanner) (b : Bool) : Scanner := { s with allowsKey := b }

/-! ## Indentation -/

/-- Closes the block collections that lie deeper than the column. -/
def unwindFrom (column : Int) : Int → List Int → Array Token → Int × List Int × Array Token
  | indent, [], tokens => (indent, [], tokens)
  | indent, outer :: rest, tokens =>
    if column < indent then unwindFrom column outer rest (tokens.push .blockEnd)
    else (indent, outer :: rest, tokens)

def unwind (s : Scanner) (column : Int) : Scanner :=
  if s.inFlow then s
  else
    let (indent, indents, tokens) := unwindFrom column s.indent s.indents s.tokens
    { s with indent, indents, tokens }

/-- Opens a block collection at the column if it lies deeper than the current one. -/
def opens (s : Scanner) (column : Nat) : Option Scanner :=
  if s.indent < (column : Int) then
    some { s with indents := s.indent :: s.indents, indent := column }
  else none

/-- Opens a block collection at the current column, outside flow collections. -/
def openBlock (s : Scanner) (t : Token) : Scanner :=
  if s.inFlow then s
  else
    match s.opens s.cur.column with
    | some s => s.push t
    | none => s

/-! ## Possible keys -/

def keyHere? (s : Scanner) : Option KeyStart := s.keys.find? fun k => k.flowLevel == s.flowLevel

/-- Gives up the possible key of this flow level; a required one may not be given up. -/
def dropKey (s : Scanner) : Except Fault Scanner :=
  match s.keyHere? with
  | some k =>
    if k.required then .error .malformed
    else .ok { s with keys := s.keys.filter fun k => k.flowLevel != s.flowLevel }
  | none => .ok s

/-- Gives up keys that would span lines or more than 1024 characters. -/
def dropStaleKeys (s : Scanner) : Except Fault Scanner :=
  let stale (k : KeyStart) : Bool := k.line != s.cur.line || s.cur.index - k.index > 1024
  if s.keys.any fun k => stale k && k.required then .error .malformed
  else .ok { s with keys := s.keys.filter fun k => !stale k }

/-- Notes that a key may start here. At the column of the block collection it has to be one. -/
def saveKey (s : Scanner) : Except Fault Scanner :=
  if s.allowsKey then do
    let required := !s.inFlow && s.indent == (s.cur.column : Int)
    let s ← s.dropKey
    pure { s with keys :=
      ⟨s.flowLevel, s.tokens.size, required, s.cur.index, s.cur.line, s.cur.column⟩ :: s.keys }
  else .ok s

def insertAt (tokens : Array Token) (n : Nat) (t : Token) : Array Token :=
  tokens.extract 0 n ++ #[t] ++ tokens.extract n tokens.size

/-! ## Between tokens -/

/-- Moves over blanks, comments and line ends. Behind a line end a key may start again. -/
def skipToToken : Nat → Scanner → Scanner
  | 0, s => s
  | fuel + 1, s =>
    let cur := s.cur.skip (· == ' ')
    let cur := if cur.peek == '#' then cur.skip fun c => !isBreak c else cur
    match cur.lineBreak? with
    | some (_, cur) => skipToToken fuel { s with cur, allowsKey := s.allowsKey || !s.inFlow }
    | none => { s with cur }

/-! ## Directives, anchors and tags -/

def named (p : Char → Bool) (cur : Cursor) : Except Fault (String × Cursor) :=
  let name := cur.ahead p
  if name.isEmpty then .error .malformed else .ok (String.ofList name, cur.forward name.length)

def number (cur : Cursor) : Except Fault (Nat × Cursor) :=
  let digits := cur.ahead Char.isDigit
  if digits.isEmpty then .error .malformed
  else .ok (Json.naturalOf digits, cur.forward digits.length)

/-- A handle: `!`, `!!` or a name between two marks. -/
def tagHandle (cur : Cursor) : Except Fault (String × Cursor) :=
  if cur.peek != '!' then .error .malformed
  else if cur.peekAt 1 == ' ' then .ok ("!", cur.next)
  else
    let name := cur.next.ahead isNameChar
    if cur.peekAt (name.length + 1) == '!' then
      .ok (String.ofList ('!' :: name ++ ['!']), cur.forward (name.length + 2))
    else .error .malformed

def isTagChar (c : Char) : Bool :=
  c.isAlphanum || "-;/?:@&=+$,_.!~*'()[]".toList.contains c

/-- The bytes of escapes that stand in a row. -/
def uriBytes : List Char → Except Fault (List UInt8 × List Char)
  | '%' :: a :: b :: r => do
    match hexValue? [a, b] with
    | some n =>
      let (bytes, r) ← uriBytes r
      pure (UInt8.ofNat n :: bytes, r)
    | none => .error .malformed
  | '%' :: _ => .error .malformed
  | r => .ok ([], r)

def uriChars : Nat → List Char → Except Fault (List Char × List Char)
  | 0, _ => .error .malformed
  | fuel + 1, cs =>
    match cs with
    | '%' :: _ => do
      let (bytes, r) ← uriBytes cs
      match String.fromUTF8? ⟨bytes.toArray⟩ with
      | some s =>
        let (text, r) ← uriChars fuel r
        pure (s.toList ++ text, r)
      | none => .error .malformed
    | c :: r =>
      if isTagChar c then do
        let (text, r) ← uriChars fuel r
        pure (c :: text, r)
      else .ok ([], cs)
    | [] => .ok ([], [])

def tagUri (cur : Cursor) : Except Fault (String × Cursor) := do
  let (text, rest) ← uriChars (cur.rest.length + 1) cur.rest
  if text.isEmpty then .error .malformed
  else pure (String.ofList text, cur.forward (cur.rest.length - rest.length))

def need (b : Bool) : Except Fault PUnit := if b then .ok ⟨⟩ else .error .malformed

def directive (cur : Cursor) : Except Fault (Token × Cursor) := do
  let (name, cur) ← named isNameChar cur.next
  need (isGapNoTab cur.peek)
  let blank (c : Char) : Bool := c == ' '
  let (token, cur) ←
    if name = "YAML" then do
      let (major, cur) ← number (cur.skip blank)
      need (cur.peek == '.')
      let (minor, cur) ← number cur.next
      need (isGapNoTab cur.peek)
      pure (Token.versionDirective major minor, cur)
    else if name = "TAG" then do
      let (handle, cur) ← tagHandle (cur.skip blank)
      need (cur.peek == ' ')
      let (start, cur) ← tagUri (cur.skip blank)
      need (isGapNoTab cur.peek)
      pure (Token.tagDirective handle start, cur)
    else pure (Token.otherDirective, cur.skip fun c => !isBreak c)
  match cur.restOfLine? with
  | some cur => pure (token, cur)
  | none => .error .malformed

/-- The name of an anchor or alias. -/
def anchorName (cur : Cursor) : Except Fault (String × Cursor) := do
  let (name, cur) ← named isNameChar cur.next
  need (isGap cur.peek || ['?', ':', ',', ']', '\x7d', '%', '@', '\x60'].contains cur.peek)
  pure (name, cur)

/-- Whether a second mark stands before the next gap, so that the tag has a handle. -/
def hasHandle : List Char → Bool
  | [] => false
  | c :: r => if isGapNoTab c then false else c == '!' || hasHandle r

def tag (cur : Cursor) : Except Fault (Token × Cursor) := do
  let c := cur.peekAt 1
  let (token, cur) ←
    if c == '<' then do
      let (suffix, cur) ← tagUri (cur.forward 2)
      need (cur.peek == '>')
      pure (Token.tag none suffix, cur.next)
    else if isGap c then pure (Token.tag none "!", cur.next)
    else do
      let (handle, cur) ← if hasHandle cur.next.rest then tagHandle cur else pure ("!", cur.next)
      let (suffix, cur) ← tagUri cur
      pure (Token.tag (some handle) suffix, cur)
  need (isGapNoTab cur.peek)
  pure (token, cur)

/-! ## One token -/

/-- May start a plain scalar. -/
def startsPlain (s : Scanner) : Bool :=
  let c := s.cur.peek
  !(isGap c || "-?:,[]\x7b\x7d#&*!|>'\"%@\x60".toList.contains c) ||
    (!isGap (s.cur.peekAt 1) && (c == '-' || (!s.inFlow && (c == '?' || c == ':'))))

def documentMark (s : Scanner) (t : Token) : Except Fault Scanner := do
  let s ← (s.unwind (-1)).dropKey
  pure ((s.allow false).take 3 t)

def flowStart (s : Scanner) (t : Token) : Except Fault Scanner := do
  let s ← s.saveKey
  pure { (s.take 1 t) with flowLevel := s.flowLevel + 1, allowsKey := true }

def flowEnd (s : Scanner) (t : Token) : Except Fault Scanner := do
  let s ← s.dropKey
  if s.flowLevel = 0 then .error .malformed
  else pure { (s.take 1 t) with flowLevel := s.flowLevel - 1, allowsKey := false }

def entry (s : Scanner) : Except Fault Scanner := do
  need (s.inFlow || s.allowsKey)
  let s ← ((s.openBlock .blockSequenceStart).allow true).dropKey
  pure (s.take 1 .blockEntry)

def explicitKey (s : Scanner) : Except Fault Scanner := do
  need (s.inFlow || s.allowsKey)
  let s ← ((s.openBlock .blockMappingStart).allow (!s.inFlow)).dropKey
  pure (s.take 1 .key)

/-- The colon behind a key. The key's tokens go in front of a scalar that turns out to be one. -/
def mappingValue (s : Scanner) : Except Fault Scanner := do
  match s.keyHere? with
  | some k =>
    let s := { s with
      keys := s.keys.filter fun k => k.flowLevel != s.flowLevel
      tokens := insertAt s.tokens k.tokenNumber .key }
    let s :=
      if s.inFlow then s
      else
        match s.opens k.column with
        | some s => { s with tokens := insertAt s.tokens k.tokenNumber .blockMappingStart }
        | none => s
    pure ((s.allow false).take 1 .value)
  | none =>
    need (s.inFlow || s.allowsKey)
    let s ← ((s.openBlock .blockMappingStart).allow (!s.inFlow)).dropKey
    pure (s.take 1 .value)

/-- A token that may be a key, read from the position by `read`. -/
def keyLike (s : Scanner) (read : Cursor → Except Fault (Token × Cursor)) :
    Except Fault Scanner := do
  let s ← s.saveKey
  let (t, cur) ← read s.cur
  pure { (s.push t) with cur, allowsKey := false }

def scalarToken (isPlain : Bool) (cs : List Char) : Token := .scalar (String.ofList cs) isPlain

def plainScalar (s : Scanner) : Except Fault Scanner := do
  let s ← s.saveKey
  let (text, cur, ended) := plain s.inFlow (s.indent + 1) s.cur
  pure { (s.push (scalarToken true text)) with cur, allowsKey := ended }

def block (s : Scanner) (fold : Bool) : Except Fault Scanner := do
  let s ← (s.allow true).dropKey
  let (text, cur) ← blockScalar fold s.indent s.cur.next
  pure { (s.push (scalarToken false text)) with cur }

/-- The next token with the tokens that indentation adds before it. -/
def step (s : Scanner) : Except Fault Scanner := do
  let s ← (skipToToken (s.cur.rest.length + 1) s).dropStaleKeys
  let s := s.unwind s.cur.column
  let c := s.cur.peek
  let gapFollows := isGap (s.cur.peekAt 1)
  let atMark (m : Char) : Bool := s.cur.column = 0 && s.cur.startsWith [m, m, m] && isGap (s.cur.peekAt 3)
  if c == endMark then do
    let s ← (s.unwind (-1)).dropKey
    pure (s.push .streamEnd)
  else if c == '%' && s.cur.column = 0 then do
    let s ← (s.unwind (-1)).dropKey
    let (t, cur) ← directive s.cur
    pure { ((s.allow false).push t) with cur }
  else if atMark '-' then s.documentMark .documentStart
  else if atMark '.' then s.documentMark .documentEnd
  else if c == '[' then s.flowStart .flowSequenceStart
  else if c == '\x7b' then s.flowStart .flowMappingStart
  else if c == ']' then s.flowEnd .flowSequenceEnd
  else if c == '\x7d' then s.flowEnd .flowMappingEnd
  else if c == ',' then do
    let s ← (s.allow true).dropKey
    pure (s.take 1 .flowEntry)
  else if c == '-' && gapFollows then s.entry
  else if c == '?' && (s.inFlow || gapFollows) then s.explicitKey
  else if c == ':' && (s.inFlow || gapFollows) then s.mappingValue
  else if c == '*' then s.keyLike fun cur => (anchorName cur).map fun (n, cur) => (.aliasOf n, cur)
  else if c == '&' then s.keyLike fun cur => (anchorName cur).map fun (n, cur) => (.anchor n, cur)
  else if c == '!' then s.keyLike tag
  else if c == '|' && !s.inFlow then s.block false
  else if c == '>' && !s.inFlow then s.block true
  else if c == '\'' || c == '"' then
    s.keyLike fun cur => (quotedScalar cur).map fun (text, cur) => (scalarToken false text, cur)
  else if s.startsPlain then s.plainScalar
  else .error .malformed

def run : Nat → Scanner → Except Fault (Array Token)
  | 0, _ => .error .malformed
  | fuel + 1, s =>
    if s.tokens.back? = some .streamEnd then .ok s.tokens
    else do run fuel (← s.step)

end Scanner

/-- The tokens of a text, up to the end mark. -/
def Token.ofText (s : String) : Except Fault (List Token) :=
  let cs := s.toList
  let cs' := match cs with
    | '\ufeff' :: r => r
    | _ => cs
  if cs.all isAllowed then (Scanner.run (cs.length + 2) (Scanner.ofText cs')).map Array.toList
  else .error .malformed

end Conformance.Yaml
