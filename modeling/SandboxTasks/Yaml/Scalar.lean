import SandboxTasks.Text.Hex
import SandboxTasks.Yaml.Cursor

namespace SandboxTasks.Yaml

structure Gap where
  blanks : List Char
  first : List Char
  more : List Char
  hasBreak : Bool

namespace Gap

def none : Gap := ⟨[], [], [], false⟩

def escaped : Gap := ⟨[], [], [], true⟩

def text (g : Gap) : List Char :=
  if !g.hasBreak then g.blanks
  else if g.first.head? = some '\n' then if g.more.isEmpty then [' '] else g.more
  else g.first ++ g.more

/-- Reads on through white space. A tab left of column `limit` cannot begin a line. -/
def read? (limit : Nat) : Nat → Gap → Cursor → Option (Gap × Cursor)
  | 0, _, _ => .none
  | fuel + 1, g, c =>
    match c.rest with
    | [] => some (g, c)
    | x :: _ =>
      if isBlank x then
        if !g.hasBreak then read? limit fuel { g with blanks := g.blanks ++ [x] } (c.skip 1)
        else if x = '\t' ∧ c.column < limit then .none
        else read? limit fuel g (c.skip 1)
      else if isBreak x then
        if g.hasBreak then read? limit fuel { g with more := g.more ++ c.breakText } c.skipBreak
        else read? limit fuel ⟨[], c.breakText, [], true⟩ c.skipBreak
      else some (g, c)

end Gap

/-- A word of a plain scalar, which ends at white space, at a colon before white space and, within a flow
collection, at that collection's marks. There a colon right before a mark is refused. -/
def plainWord? (inFlow : Bool) : List Char → Option (List Char)
  | [] => some []
  | c :: cs =>
    if isSpace c then some []
    else if c = ':' then
      if inFlow && cs.head?.any (fun d => isFlow d || d = '?') then none
      else if isGap cs.head? then some []
      else (plainWord? inFlow cs).map (c :: ·)
    else if inFlow && isFlow c then some []
    else (plainWord? inFlow cs).map (c :: ·)

structure Plain where
  text : List Char
  gap : Gap
  cursor : Cursor

/-- Reads the words of a plain scalar. Outside of flow collections its lines stand at column `limit` or to the
right of it. -/
def readPlain? (inFlow : Bool) (limit : Nat) : Nat → Plain → Option Plain
  | 0, _ => none
  | fuel + 1, p =>
    if p.cursor.atDocumentMarker || p.cursor.nextIs '#' then some p
    else
      match plainWord? inFlow p.cursor.rest with
      | none => none
      | some word =>
        let p := if word.isEmpty then p else ⟨p.text ++ p.gap.text ++ word, .none, p.cursor.skip word.length⟩
        if !p.cursor.next?.any isSpace then some p
        else
          match Gap.read? limit (p.cursor.rest.length + 1) p.gap p.cursor with
          | none => none
          | some (gap, cursor) =>
            let p := ⟨p.text, gap, cursor⟩
            if !inFlow && cursor.column < limit then some p else readPlain? inFlow limit fuel p

def unescape? (c : Char) : Option Char :=
  if c = '0' then some (Char.ofNat 0)
  else if c = 'a' then some (Char.ofNat 7)
  else if c = 'b' then some (Char.ofNat 8)
  else if c = 't' ∨ c = '\t' then some '\t'
  else if c = 'n' then some '\n'
  else if c = 'v' then some (Char.ofNat 11)
  else if c = 'f' then some (Char.ofNat 12)
  else if c = 'r' then some '\r'
  else if c = 'e' then some (Char.ofNat 27)
  else if c = ' ' ∨ c = '"' ∨ c = '/' ∨ c = '\\' then some c
  else if c = 'N' then some (Char.ofNat 0x85)
  else if c = '_' then some (Char.ofNat 0xA0)
  else if c = 'L' then some (Char.ofNat 0x2028)
  else if c = 'P' then some (Char.ofNat 0x2029)
  else none

def hexEscape? (c : Char) : Option Nat :=
  if c = 'x' then some 2 else if c = 'u' then some 4 else if c = 'U' then some 8 else none

def hexChar? (digits : List Char) : Option Char := do
  let values ← digits.mapM Text.Hex.value?
  let n := values.foldl (fun n d => n * 16 + d) 0
  if n.isValidChar then return Char.ofNat n else none

def singleWord : List Char → List Char × Nat
  | '\'' :: '\'' :: cs => let (text, n) := singleWord cs; ('\'' :: text, n + 2)
  | '\'' :: _ => ([], 0)
  | c :: cs => if isSpace c then ([], 0) else let (text, n) := singleWord cs; (c :: text, n + 1)
  | [] => ([], 0)

def doubleWord? : Nat → List Char → Option (List Char × Nat)
  | 0, _ => none
  | _, [] => some ([], 0)
  | fuel + 1, c :: cs =>
    if isSpace c || c = '"' then some ([], 0)
    else if c = '\\' then
      match cs with
      | [] => none
      | e :: rest =>
        if isBreak e then some ([], 0)
        else
          match unescape? e, hexEscape? e with
          | some x, _ => (doubleWord? fuel rest).map fun (text, n) => (x :: text, n + 2)
          | none, some k =>
            if rest.length < k then none
            else
              match hexChar? (rest.take k) with
              | some x => (doubleWord? fuel (rest.drop k)).map fun (text, n) => (x :: text, n + 2 + k)
              | none => none
          | none, none => none
    else (doubleWord? fuel cs).map fun (text, n) => (c :: text, n + 1)

def quotedWord? (quote : Char) (cs : List Char) : Option (List Char × Nat) :=
  if quote = '"' then doubleWord? (cs.length + 1) cs else some (singleWord cs)

def readQuoted? (quote : Char) : Nat → List Char → Cursor → Option (List Char × Cursor)
  | 0, _, _ => none
  | fuel + 1, text, c =>
    if c.atDocumentMarker then none
    else
      match quotedWord? quote c.rest with
      | none => none
      | some (word, length) =>
        let text := text ++ word
        let c := c.skip length
        match c.rest with
        | [] => none
        | x :: _ =>
          if x = quote then some (text, c.skip 1)
          else
            let (gap, c) := if isSpace x then (Gap.none, c) else (Gap.escaped, (c.skip 1).skipBreak)
            match Gap.read? 0 (c.rest.length + 1) gap c with
            | none => none
            | some (gap, c) => readQuoted? quote fuel (text ++ gap.text) c

end SandboxTasks.Yaml
