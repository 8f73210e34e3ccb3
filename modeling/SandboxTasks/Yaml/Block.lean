import SandboxTasks.Yaml.Cursor

namespace SandboxTasks.Yaml.Block

inductive Chomp where
  | clip
  | strip
  | keep
deriving DecidableEq, Repr

structure Header where
  chomp : Chomp
  indentation : Option Nat

def chompOf? (c : Char) : Option Chomp := if c = '+' then some .keep else if c = '-' then some .strip else none

def readHeader? (c : Cursor) : Option (Header × Cursor) :=
  match c.next?.bind chompOf? with
  | some chomp =>
    let c := c.skip 1
    match c.next?.filter Text.isDigit with
    | some d => if d = '0' then none else some (⟨chomp, some (Text.digitsValue [d])⟩, c.skip 1)
    | none => some (⟨chomp, none⟩, c)
  | none =>
    match c.next?.filter Text.isDigit with
    | some d =>
      if d = '0' then none
      else
        let c := c.skip 1
        match c.next?.bind chompOf? with
        | some chomp => some (⟨chomp, some (Text.digitsValue [d])⟩, c.skip 1)
        | none => some (⟨.clip, some (Text.digitsValue [d])⟩, c)
    | none => some (⟨.clip, none⟩, c)

def skipIndentation (indent : Option Nat) (c : Cursor) : Cursor :=
  let spaces := (c.rest.takeWhile (· = ' ')).length
  match indent with
  | some n => c.skip (min spaces (n - c.column))
  | none => c.skip spaces

/-- Reads on through empty lines. Gives their line breaks and the greatest column where one of the lines ended
or text began. A tab cannot stand for indentation. -/
def readBreaks? (indent : Option Nat) : Nat → List Char → Nat → Cursor → Option (List Char × Nat × Cursor)
  | 0, _, _, _ => none
  | fuel + 1, breaks, widest, c =>
    let c := skipIndentation indent c
    let widest := max widest c.column
    if c.nextIs '\t' && indent.all (c.column < ·) then none
    else if c.next?.any isBreak then readBreaks? indent fuel (breaks ++ c.breakText) widest c.skipBreak
    else some (breaks, widest, c)

structure Lines where
  text : List Char
  ending : List Char
  empty : List Char
  /-- The last line began with a blank; its line breaks are not folded. -/
  isIndented : Bool
  cursor : Cursor

def Lines.joint (literal : Bool) (b : Lines) (nextIsIndented : Bool) : List Char :=
  if !literal && b.ending.head? == some '\n' && !b.isIndented && !nextIsIndented then
    if b.empty.isEmpty then [' '] else b.empty
  else b.ending ++ b.empty

def readLines? (literal : Bool) (indent : Nat) : Nat → Lines → Option Lines
  | 0, _ => none
  | fuel + 1, b =>
    let c := b.cursor
    if c.column ≠ indent ∨ c.rest.isEmpty then some b
    else
      let isIndented := c.next?.any isBlank
      let line := c.rest.takeWhile (!isBreak ·)
      let text := b.text ++ b.joint literal isIndented ++ line
      let c := c.skip line.length
      match readBreaks? (some indent) (c.rest.length + 1) [] 0 c.skipBreak with
      | none => none
      | some (empty, _, after) => readLines? literal indent fuel ⟨text, c.breakText, empty, isIndented, after⟩

def read? (literal : Bool) (limit : Nat) (c : Cursor) : Option (List Char × Cursor) := do
  let (header, c) ← readHeader? c
  let c := c.skipWhile isBlank
  let c := if c.nextIs '#' then c.skipWhile (!isBreak ·) else c
  if !c.next?.all isBreak then none
  let c := c.skipBreak
  let given := header.indentation.map fun n => limit - 1 + n
  let (empty, widest, c) ← readBreaks? given (c.rest.length + 1) [] 0 c
  let indent := given.getD (max 1 (max widest limit))
  let b ← readLines? literal indent (c.rest.length + 1) ⟨[], [], empty, false, c⟩
  return match header.chomp with
    | .strip => (b.text, b.cursor)
    | .clip => (b.text ++ b.ending, b.cursor)
    | .keep => (b.text ++ b.ending ++ b.empty, b.cursor)

end SandboxTasks.Yaml.Block
