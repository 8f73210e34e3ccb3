import SandboxTasks.Http.Domain.Direction
import SandboxTasks.Http.Domain.Joiner
import SandboxTasks.Http.Domain.Mapping
import SandboxTasks.Http.Domain.Punycode

namespace SandboxTasks.Http.Domain

structure Label where
  characters : List Nat
  letters : List Char
deriving DecidableEq, Repr

namespace Label

def mark : List Char := ['x', 'n', '-', '-']

def isAscii (c : Nat) : Bool := c < 0x80

/-- Texts of this length and more are not decoded, and half as long ones not encoded. -/
def lengthLimit : Nat := 2001

/-- A label that is encoded already; what it stands for has to be in the form that it would have been brought to. -/
def encoded? (letters : List Char) : Option Label := do
  let text := letters.drop mark.length
  if text.getLast? = some '-' ∨ lengthLimit ≤ text.length then none
  let characters ← Punycode.decode? text
  if characters.all isAscii ∨ !characters.all isPlain ∨ Composition.normal characters ≠ characters then none
  return ⟨characters, letters⟩

def read? (cs : List Nat) : Option Label :=
  let letters := cs.map Char.ofNat
  if mark.isPrefixOf letters then if cs.all isAscii then encoded? letters else none
  else if cs.all isAscii then some ⟨cs, letters⟩
  else if lengthLimit / 2 < cs.length then none
  else some ⟨cs, mark ++ Punycode.encode cs⟩

def isWellFormed (l : Label) : Bool := !l.characters.head?.any Composition.isMark && Joiner.fit [] l.characters

end Label

def normal? (cs : List Char) : Option (List Nat) := do
  let mapped ← cs.mapM fun c => mapped? c.toNat
  return Composition.normal mapped.flatten

def ascii? (cs : List Char) : Option (List Char) := do
  let labels ← (Text.splitOn (· = '.'.toNat) (← normal? cs)).mapM Label.read?
  if !labels.all Label.isWellFormed ∨ !Direction.agree (labels.map (·.characters)) then none
  return List.intercalate ['.'] (labels.map (·.letters))

end SandboxTasks.Http.Domain
