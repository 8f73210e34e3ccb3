import SandboxTasks.Http.Domain
import SandboxTasks.Text.Percent

namespace SandboxTasks.Http.Host

def isForbidden (c : Char) : Bool :=
  ['\x00', '\t', '\n', '\r', ' ', '#', '/', ':', '<', '>', '?', '@', '[', '\\', ']', '^', '|'].contains c

def isForbiddenInName (c : Char) : Bool := isForbidden c || c.toNat < 0x20 || c.toNat = 0x7F || c = '%'

def lower (cs : List Char) : List Char := cs.map Char.toLower

def isHex (c : Char) : Bool := (Text.Hex.value? c).isSome

/-- A number in decimal, in octal behind a zero, or in hexadecimal behind `0x`. -/
def number? (cs : List Char) : Option Nat :=
  let value (radix : Nat) (ds : List Char) : Option Nat :=
    ds.foldlM (fun n d => do
      let v ← Text.Hex.value? d
      if v < radix then return n * radix + v else none) 0
  match cs with
  | [] => none
  | '0' :: 'x' :: ds => value 16 ds
  | '0' :: 'X' :: ds => value 16 ds
  | '0' :: d :: ds => value 8 (d :: ds)
  | ds => value 10 ds

def dottedParts (cs : List Char) : List (List Char) :=
  let parts := Text.splitOn (· = '.') cs
  if 1 < parts.length ∧ parts.getLast? = some [] then parts.dropLast else parts

/-- The last part is a number, so that the host has to be an address. -/
def endsInNumber (cs : List Char) : Bool :=
  match (dottedParts cs).getLast? with
  | none => false
  | some part => (!part.isEmpty && part.all Text.isDigit) || (part.take 2 == ['0', 'x'] && (number? part).isSome)

/-- An address of at most four numbers, the last of which fills the bytes that are left. -/
def address4? (cs : List Char) : Option Nat := do
  let parts := dottedParts cs
  if 4 < parts.length then none
  let ns ← parts.mapM number?
  let last ← ns.getLast?
  let front := ns.dropLast
  if front.any (255 < ·) then none
  if Nat.pow 256 (5 - ns.length) ≤ last then none
  return front.zipIdx.foldl (fun sum (n, i) => sum + n * Nat.pow 256 (3 - i)) last

def decimalText (n : Nat) : List Char := (toString n).toList

def address4Text (n : Nat) : List Char :=
  List.intercalate ['.'] ([n / 16777216, n / 65536 % 256, n / 256 % 256, n % 256].map decimalText)

def tail4? (cs : List Char) : Option (List Nat) := do
  let parts := Text.splitOn (· = '.') cs
  if parts.length ≠ 4 then none
  let ns ← parts.mapM fun p =>
    if p.isEmpty ∨ !p.all Text.isDigit ∨ (1 < p.length ∧ p.head? = some '0') then none
    else some (Text.digitsValue p)
  match ns with
  | [a, b, c, d] => if ns.all (· ≤ 255) then return [a * 256 + b, c * 256 + d] else none
  | _ => none

def pieces? : List (List Char) → Option (List Nat)
  | [] => some []
  | p :: ps =>
    if ps.isEmpty ∧ p.contains '.' then tail4? p
    else if p.isEmpty ∨ 4 < p.length ∨ !p.all isHex then none
    else do
      let rest ← pieces? ps
      return p.foldl (fun n d => n * 16 + (Text.Hex.value? d).getD 0) 0 :: rest

def splitDouble : List Char → List Char × Option (List Char)
  | ':' :: ':' :: cs => ([], some cs)
  | c :: cs => let (before, behind) := splitDouble cs; (c :: before, behind)
  | [] => ([], none)

def listOf? (cs : List Char) : Option (List Nat) := if cs.isEmpty then some [] else pieces? (Text.splitOn (· = ':') cs)

def address6? (cs : List Char) : Option (List Nat) := do
  match splitDouble cs with
  | (all, none) =>
    let ns ← listOf? all
    if ns.length = 8 then return ns else none
  | (before, some behind) =>
    if before.contains '.' then none
    let front ← listOf? before
    let back ← listOf? behind
    if front.length + back.length ≤ 7 then
      return front ++ List.replicate (8 - front.length - back.length) 0 ++ back
    else none

/-- Where the first longest run of zeros begins and how long it is; runs of one do not count. -/
def longestZeros (ns : List Nat) : Nat × Nat :=
  (List.range ns.length).foldl (fun best i =>
    let run := ((ns.drop i).takeWhile (· = 0)).length
    if max 1 best.2 < run then (i, run) else best) (0, 0)

def piecesText (ns : List Nat) : List Char := List.intercalate [':'] (ns.map Text.Hex.ofNat)

def address6Text (ns : List Nat) : List Char :=
  let (start, length) := longestZeros ns
  if length = 0 then piecesText ns
  else piecesText (ns.take start) ++ [':', ':'] ++ piecesText (ns.drop (start + length))

def bracketed? (cs : List Char) : Option (List Char) :=
  if cs.getLast? = some ']' then (address6? cs.dropLast).map fun ns => '[' :: address6Text ns ++ [']'] else none

def normal? (cs : List Char) : Option (List Char) :=
  match cs with
  | '[' :: cs => bracketed? cs
  | cs => do
    let text ← Text.Percent.decode? (String.ofList cs)
    let name ← Domain.ascii? text.toList
    if name.isEmpty ∨ name.any isForbiddenInName then none
    if endsInNumber name then (address4? name).map address4Text else return name

def general? (cs : List Char) : Option (List Char) :=
  match cs with
  | '[' :: cs => bracketed? cs
  | cs => if cs.any isForbidden then none else some (Text.Percent.encode (fun c => 0x20 ≤ c.toNat && c.toNat < 0x7F) cs)

end SandboxTasks.Http.Host
