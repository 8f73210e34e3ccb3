import SandboxTasks.Text.Digits

namespace SandboxTasks.Yaml

def isBlank (c : Char) : Bool := c = ' ' || c = '\t'

def isBreak (c : Char) : Bool := c = '\n' || c = '\r' || c.toNat = 0x85 || c.toNat = 0x2028 || c.toNat = 0x2029

def isSpace (c : Char) : Bool := isBlank c || isBreak c

def isName (c : Char) : Bool := Text.isDigit c || ('a' ≤ c && c ≤ 'z') || ('A' ≤ c && c ≤ 'Z') || c = '_' || c = '-'

def isFlow (c : Char) : Bool := c = ',' || c = '[' || c = ']' || c = '\x7b' || c = '\x7d'

/-- Nothing but white space may be told from what comes next. -/
def isGap : Option Char → Bool
  | none => true
  | some c => isSpace c

def byteCount (cs : List Char) : Nat := cs.foldl (fun n c => n + c.utf8Size) 0

structure Cursor where
  rest : List Char
  index : Nat
  line : Nat
  column : Nat

namespace Cursor

def ofChars (cs : List Char) : Cursor := ⟨cs, 0, 0, 0⟩

def next? (c : Cursor) : Option Char := c.rest.head?

def nextIs (c : Cursor) (x : Char) : Bool := c.rest.head? == some x

def second? (c : Cursor) : Option Char := c.rest.tail.head?

def skip (c : Cursor) (n : Nat) : Cursor :=
  ⟨c.rest.drop n, c.index + byteCount (c.rest.take n), c.line, c.column + n⟩

def skipWhile (c : Cursor) (p : Char → Bool) : Cursor := c.skip (c.rest.takeWhile p).length

def skipBreak (c : Cursor) : Cursor :=
  match c.rest with
  | '\r' :: '\n' :: rest => ⟨rest, c.index + 2, c.line + 1, 0⟩
  | x :: rest => if isBreak x then ⟨rest, c.index + x.utf8Size, c.line + 1, 0⟩ else c
  | [] => c

/-- What the next line break adds to a text: a line feed, unless it is one of the two separators of Unicode. -/
def breakText (c : Cursor) : List Char :=
  match c.rest with
  | x :: _ => if x.toNat = 0x2028 ∨ x.toNat = 0x2029 then [x] else if isBreak x then ['\n'] else []
  | [] => []

def atMarker (c : Cursor) (mark : Char) : Bool :=
  c.column == 0 && c.rest.take 3 == [mark, mark, mark] && isGap (c.rest.drop 3).head?

def atDocumentMarker (c : Cursor) : Bool := c.atMarker '-' || c.atMarker '.'

end Cursor

end SandboxTasks.Yaml
