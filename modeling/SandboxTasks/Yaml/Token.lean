import SandboxTasks.Yaml.Block
import SandboxTasks.Yaml.Scalar

namespace SandboxTasks.Yaml

inductive Style where
  | plain
  | quoted
  | literal
  | folded
deriving DecidableEq, Repr

inductive Token where
  | version (major minor : Nat)
  | tagHandle (handle meaning : String)
  | documentStart
  | documentEnd
  | sequenceStart
  | mappingStart
  | blockEnd
  | flowSequenceStart
  | flowSequenceEnd
  | flowMappingStart
  | flowMappingEnd
  | blockEntry
  | flowEntry
  | key
  | value
  | alias (name : String)
  | anchor (name : String)
  | tag (handle suffix : String)
  | scalar (style : Style) (text : String)
deriving DecidableEq, Repr

namespace Token

def isTagMark (c : Char) : Bool :=
  [';', '/', '?', ':', '@', '&', '=', '+', '$', '.', '%', '!', '~', '*', '\'', '(', ')'].contains c

def isTagChar (verbatim : Bool) (c : Char) : Bool :=
  isName c || isTagMark c || (verbatim && (c = ',' || c = '[' || c = ']'))

def escapedByte? (cs : List Char) : Option UInt8 :=
  match cs with
  | '%' :: h :: l :: _ => do
    let h ← Text.Hex.value? h
    let l ← Text.Hex.value? l
    return UInt8.ofNat (h * 16 + l)
  | _ => none

/-- How many bytes the character takes that begins with this one. -/
def charWidth? (b : UInt8) : Option Nat :=
  if b < 0x80 then some 1
  else if b < 0xC0 then none
  else if b < 0xE0 then some 2
  else if b < 0xF0 then some 3
  else if b < 0xF8 then some 4
  else none

def escapedBytes? : Nat → List Char → Option (List UInt8)
  | 0, _ => some []
  | n + 1, cs => do
    let b ← escapedByte? cs
    if b &&& 0xC0 ≠ 0x80 then none
    let bs ← escapedBytes? n (cs.drop 3)
    return b :: bs

/-- The bytes of a tag, each of which a percent sign and two hexadecimal digits can write. The first byte of a
character tells how many follow. -/
def tagBytes? : Nat → List Char → Option (List UInt8)
  | 0, _ => none
  | _, [] => some []
  | fuel + 1, '%' :: cs => do
    let b ← escapedByte? ('%' :: cs)
    let width ← charWidth? b
    let bs ← escapedBytes? (width - 1) (cs.drop 2)
    let rest ← tagBytes? fuel (cs.drop (3 * width - 1))
    return b :: bs ++ rest
  | fuel + 1, c :: cs => (tagBytes? fuel cs).map ((String.singleton c).toUTF8.toList ++ ·)

def readTagText? (verbatim : Bool) (c : Cursor) : Option (List Char × Cursor) := do
  let cs := c.rest.takeWhile (isTagChar verbatim)
  let bytes ← tagBytes? (cs.length + 1) cs
  return (bytes.map Char.ofUInt8, c.skip cs.length)

def readHandle? (c : Cursor) : Option (List Char × Cursor) :=
  if c.nextIs '!' then
    let name := (c.skip 1).rest.takeWhile isName
    let c := c.skip (1 + name.length)
    if c.nextIs '!' then some ('!' :: name ++ ['!'], c.skip 1) else some ('!' :: name, c)
  else none

/-- A tag with its handle; a tag without one has the handle `!`, and a lone `!` is a tag without handle. -/
def readTag? (inFlow : Bool) (c : Cursor) : Option (Token × Cursor) := do
  let (handle, suffix, c) ← if c.second? = some '<' then do
      let (suffix, c) ← readTagText? true (c.skip 2)
      if suffix.isEmpty ∨ !c.nextIs '>' then none
      pure (([] : List Char), suffix, c.skip 1)
    else do
      let (handle, after) ← readHandle? c
      if 2 ≤ handle.length ∧ handle.getLast? = some '!' then
        let (suffix, c) ← readTagText? false after
        if suffix.isEmpty then none
        pure (handle, suffix, c)
      else
        let (more, c) ← readTagText? false after
        let suffix := handle.tail ++ more
        pure (if suffix.isEmpty then ([], ['!'], c) else (['!'], suffix, c))
  if (inFlow && c.nextIs ',') || isGap c.next? then
    return (.tag (String.ofList handle) (String.ofList suffix), c)
  else none

def readName? (c : Cursor) : Option (String × Cursor) :=
  let name := (c.skip 1).rest.takeWhile isName
  let c := c.skip (1 + name.length)
  let ends := match c.next? with
    | none => true
    | some x => isSpace x || ['?', ':', ',', ']', '\x7d', '%', '@', '\x60'].contains x
  if name.isEmpty ∨ !ends then none else some (String.ofList name, c)

def readVersionPart? (c : Cursor) : Option (Nat × Cursor) :=
  let ds := c.rest.takeWhile Text.isDigit
  if ds.isEmpty ∨ 9 < ds.length then none else some (Text.digitsValue ds, c.skip ds.length)

def readDirective? (c : Cursor) : Option (Token × Cursor) := do
  let name := (c.skip 1).rest.takeWhile isName
  let c := c.skip (1 + name.length)
  if !isGap c.next? then none
  let (token, c) ← if name = ['Y', 'A', 'M', 'L'] then do
      let (major, c) ← readVersionPart? (c.skipWhile isBlank)
      if !c.nextIs '.' then none
      let (minor, c) ← readVersionPart? (c.skip 1)
      pure (Token.version major minor, c)
    else if name = ['T', 'A', 'G'] then do
      let (handle, c) ← readHandle? (c.skipWhile isBlank)
      if handle ≠ ['!'] ∧ (handle.length < 2 ∨ handle.getLast? ≠ some '!') then none
      if !c.next?.any isBlank then none
      let (meaning, c) ← readTagText? true (c.skipWhile isBlank)
      if meaning.isEmpty ∨ !isGap c.next? then none
      pure (Token.tagHandle (String.ofList handle) (String.ofList meaning), c)
    else none
  let c := c.skipWhile isBlank
  let c := if c.nextIs '#' then c.skipWhile (!isBreak ·) else c
  if c.next?.all isBreak then return (token, c.skipBreak) else none

end Token

structure PossibleKey where
  isRequired : Bool
  position : Nat
  index : Nat
  line : Nat
  column : Nat

structure Layout where
  cursor : Cursor
  tokens : Array Token
  blocks : List Nat
  key : Option PossibleKey
  outerKeys : List (Option PossibleKey)
  keyAllowed : Bool

namespace Layout

def ofChars (cs : List Char) : Layout := ⟨.ofChars cs, #[], [], none, [], true⟩

def inFlow (s : Layout) : Bool := !s.outerKeys.isEmpty

def limit (s : Layout) : Nat :=
  match s.blocks with
  | [] => 0
  | n :: _ => n + 1

def emit (s : Layout) (t : Token) : Layout := { s with tokens := s.tokens.push t }

def take (s : Layout) (t : Token) (n : Nat) : Layout :=
  { s with tokens := s.tokens.push t, cursor := s.cursor.skip n }

def close (s : Layout) (limit : Nat) : Layout :=
  if s.inFlow then s
  else
    let closed := s.blocks.takeWhile (limit ≤ ·)
    { s with blocks := s.blocks.drop closed.length, tokens := closed.foldl (fun ts _ => ts.push .blockEnd) s.tokens }

/-- Opens a block collection at a column, unless the innermost one stands there already. -/
def openBlock (s : Layout) (column : Nat) (position : Nat) (t : Token) : Layout :=
  if s.inFlow || column < s.limit then s
  else { s with blocks := column :: s.blocks, tokens := s.tokens.insertIdxIfInBounds position t }

def dropKey? (s : Layout) : Option Layout :=
  if s.key.any (·.isRequired) then none else some { s with key := none }

def noteKey? (s : Layout) : Option Layout :=
  if s.keyAllowed then do
    let s ← s.dropKey?
    let c := s.cursor
    return { s with key := some ⟨!s.inFlow && s.limit == c.column + 1, s.tokens.size, c.index, c.line, c.column⟩ }
  else some s

/-- A key stands on one line and is at most 1024 bytes long. -/
def isStale (c : Cursor) (k : PossibleKey) : Bool := k.line < c.line || k.index + 1024 < c.index

def refresh? (c : Cursor) (key : Option PossibleKey) : Option (Option PossibleKey) :=
  match key with
  | none => some none
  | some k => if isStale c k then if k.isRequired then none else some none else some (some k)

def refreshKeys? (s : Layout) : Option Layout := do
  let key ← refresh? s.cursor s.key
  let outerKeys ← s.outerKeys.mapM (refresh? s.cursor)
  return { s with key, outerKeys }

/-- Past white space and comments. Tabs may stand where no key can begin; a byte order mark may begin a line, and
takes a column of it. -/
def skipSpace : Nat → Layout → Layout
  | 0, s => s
  | fuel + 1, s =>
    let c := s.cursor
    let c := if c.column = 0 ∧ c.next?.any (·.toNat = 0xFEFF) then c.skip 1 else c
    let c := c.skipWhile fun x => x = ' ' || ((s.inFlow || !s.keyAllowed) && x = '\t')
    let c := if c.nextIs '#' then c.skipWhile (!isBreak ·) else c
    if c.next?.any isBreak then
      skipSpace fuel { s with cursor := c.skipBreak, keyAllowed := s.keyAllowed || !s.inFlow }
    else { s with cursor := c }

def finish? (s : Layout) : Option (Array Token) := do
  let s ← (s.close 0).dropKey?
  return s.tokens

def directive? (s : Layout) : Option Layout := do
  let s ← (s.close 0).dropKey?
  let (t, c) ← Token.readDirective? s.cursor
  return { s.emit t with cursor := c, keyAllowed := false }

def documentMarker? (s : Layout) (t : Token) : Option Layout := do
  let s ← (s.close 0).dropKey?
  return { s.take t 3 with keyAllowed := false }

def openFlow? (s : Layout) (t : Token) : Option Layout := do
  let s ← s.noteKey?
  return { s.take t 1 with key := none, outerKeys := s.key :: s.outerKeys, keyAllowed := true }

def closeFlow? (s : Layout) (t : Token) : Option Layout := do
  let s ← s.dropKey?
  let s := match s.outerKeys with
    | [] => s
    | key :: outer => { s with key, outerKeys := outer }
  return { s.take t 1 with keyAllowed := false }

def comma? (s : Layout) : Option Layout := do
  let s ← s.dropKey?
  return { s.take .flowEntry 1 with keyAllowed := true }

def dash? (s : Layout) : Option Layout := do
  if !s.inFlow && !s.keyAllowed then none
  let s ← (s.openBlock s.cursor.column s.tokens.size .sequenceStart).dropKey?
  return { s.take .blockEntry 1 with keyAllowed := true }

def keyMark? (s : Layout) : Option Layout := do
  if !s.inFlow && !s.keyAllowed then none
  let s ← (s.openBlock s.cursor.column s.tokens.size .mappingStart).dropKey?
  return { s.take .key 1 with keyAllowed := !s.inFlow }

def valueMark? (s : Layout) : Option Layout :=
  match s.key with
  | some k =>
    let s := { s with tokens := s.tokens.insertIdxIfInBounds k.position .key }
    let s := s.openBlock k.column k.position .mappingStart
    some { s.take .value 1 with key := none, keyAllowed := false }
  | none => do
    if !s.inFlow && !s.keyAllowed then none
    let s := s.openBlock s.cursor.column s.tokens.size .mappingStart
    return { s.take .value 1 with keyAllowed := !s.inFlow }

def named? (s : Layout) (token : String → Token) : Option Layout := do
  let s ← s.noteKey?
  let (name, c) ← Token.readName? s.cursor
  return { s.emit (token name) with cursor := c, keyAllowed := false }

def tag? (s : Layout) : Option Layout := do
  let s ← s.noteKey?
  let (t, c) ← Token.readTag? s.inFlow s.cursor
  return { s.emit t with cursor := c, keyAllowed := false }

def blockScalar? (s : Layout) (literal : Bool) : Option Layout := do
  let s ← s.dropKey?
  let (text, c) ← Block.read? literal s.limit (s.cursor.skip 1)
  let style := if literal then Style.literal else Style.folded
  return { s.emit (.scalar style (String.ofList text)) with cursor := c, keyAllowed := true }

def quotedScalar? (s : Layout) (quote : Char) : Option Layout := do
  let s ← s.noteKey?
  let c := s.cursor.skip 1
  let (text, c) ← readQuoted? quote (c.rest.length + 1) [] c
  return { s.emit (.scalar .quoted (String.ofList text)) with cursor := c, keyAllowed := false }

def plainScalar? (s : Layout) : Option Layout := do
  let s ← s.noteKey?
  let p ← readPlain? s.inFlow s.limit (s.cursor.rest.length + 1) ⟨[], .none, s.cursor⟩
  return { s.emit (.scalar .plain (String.ofList p.text)) with cursor := p.cursor, keyAllowed := p.gap.hasBreak }

/-- A plain scalar cannot begin with a character that has a meaning of its own, though with some of those if
more text is right behind it. -/
def startsPlain (inFlow : Bool) (x : Char) (next : Option Char) : Bool :=
  if x = '-' then !next.any isBlank
  else if x = '?' ∨ x = ':' then !inFlow && !isGap next
  else !(isSpace x || isFlow x || ['#', '&', '*', '!', '|', '>', '\'', '"', '%', '@', '\x60'].contains x)

def step? (s : Layout) (x : Char) : Option Layout :=
  let c := s.cursor
  if c.column = 0 ∧ x = '%' then s.directive?
  else if c.atMarker '-' then s.documentMarker? .documentStart
  else if c.atMarker '.' then s.documentMarker? .documentEnd
  else if x = '[' then s.openFlow? .flowSequenceStart
  else if x = '\x7b' then s.openFlow? .flowMappingStart
  else if x = ']' then s.closeFlow? .flowSequenceEnd
  else if x = '\x7d' then s.closeFlow? .flowMappingEnd
  else if x = ',' then s.comma?
  else if x = '-' ∧ isGap c.second? then s.dash?
  else if x = '?' ∧ (s.inFlow ∨ isGap c.second?) then s.keyMark?
  else if x = ':' ∧ (s.inFlow ∨ isGap c.second?) then s.valueMark?
  else if x = '*' then s.named? .alias
  else if x = '&' then s.named? .anchor
  else if x = '!' then s.tag?
  else if x = '|' ∧ !s.inFlow then s.blockScalar? true
  else if x = '>' ∧ !s.inFlow then s.blockScalar? false
  else if x = '\'' ∨ x = '"' then s.quotedScalar? x
  else if startsPlain s.inFlow x c.second? then s.plainScalar?
  else none

def run? : Nat → Layout → Option (Array Token)
  | 0, _ => none
  | fuel + 1, s =>
    match (s.skipSpace (s.cursor.rest.length + 1)).refreshKeys? with
    | none => none
    | some s =>
      let s := s.close (s.cursor.column + 1)
      match s.cursor.next? with
      | none => s.finish?
      | some x =>
        match s.step? x with
        | none => none
        | some s => run? fuel s

end Layout

def Token.ofChars? (cs : List Char) : Option (List Token) :=
  ((Layout.ofChars cs).run? (cs.length + 1)).map Array.toList

end SandboxTasks.Yaml
