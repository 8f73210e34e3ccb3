import SandboxTasks.Text.Digits
import SandboxTasks.Text.Hex
import SandboxTasks.Text.Split

namespace SandboxTasks.Text.Ranges

structure Row where
  first : Nat
  last : Nat
  sign : Char
  numbers : List Nat
deriving DecidableEq, Repr

def isHexDigit (c : Char) : Bool := isDigit c || ('a' ≤ c && c ≤ 'f')

def number (ds : List Char) : Nat := ds.foldl (fun n d => n * 16 + (Hex.value? d).getD 0) 0

def Row.ofText (cs : List Char) : Row :=
  let first := number (cs.takeWhile isHexDigit)
  let rest := cs.dropWhile isHexDigit
  let last := if rest.head? = some '-' then number (rest.tail.takeWhile isHexDigit) else first
  let rest := if rest.head? = some '-' then rest.tail.dropWhile isHexDigit else rest
  ⟨first, last, rest.headD ' ', (splitOn (· = ',') rest.tail).map number⟩

def ofLines (lines : List String) : List Row := lines.flatMap fun line => (splitOn (· = ' ') line.toList).map Row.ofText

def lookup? (rows : List Row) (c : Nat) : Option Row := (rows.find? (c ≤ ·.last)).filter (·.first ≤ c)

end SandboxTasks.Text.Ranges
