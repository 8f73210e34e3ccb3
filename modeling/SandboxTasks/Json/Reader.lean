import SandboxTasks.Json.Basic
import SandboxTasks.Text.Digits
import SandboxTasks.Text.Hex

namespace SandboxTasks.Json

def isSpace (c : Char) : Bool := c = ' ' || c = '\t' || c = '\n' || c = '\r'

def skipSpace (cs : List Char) : List Char := cs.dropWhile isSpace

def hex4? (a b c d : Char) : Option Nat := do
  let a ← Text.Hex.value? a
  let b ← Text.Hex.value? b
  let c ← Text.Hex.value? c
  let d ← Text.Hex.value? d
  return ((a * 16 + b) * 16 + c) * 16 + d

def isHighSurrogate (u : Nat) : Bool := 0xD800 ≤ u && u ≤ 0xDBFF

def isLowSurrogate (u : Nat) : Bool := 0xDC00 ≤ u && u ≤ 0xDFFF

def unescape? (c : Char) : Option Char :=
  if c = '"' ∨ c = '\\' ∨ c = '/' then some c
  else if c = 'b' then some (Char.ofNat 8)
  else if c = 't' then some (Char.ofNat 9)
  else if c = 'n' then some (Char.ofNat 10)
  else if c = 'f' then some (Char.ofNat 12)
  else if c = 'r' then some (Char.ofNat 13)
  else none

def prepend (c : Char) (r : Option (List Char) × List Char) : Option (List Char) × List Char := (r.1.map (c :: ·), r.2)

/-- Reads up to the closing quote. The string is none if it holds half of a surrogate pair; there is no result
at all if the text is no JSON string. -/
def readChars? : List Char → Option (Option (List Char) × List Char)
  | [] => none
  | '"' :: rest => some (some [], rest)
  | '\\' :: 'u' :: a :: b :: c :: d :: rest =>
    match hex4? a b c d with
    | none => none
    | some u =>
      if isHighSurrogate u then
        match rest with
        | '\\' :: 'u' :: e :: f :: g :: h :: rest' =>
          match hex4? e f g h with
          | none => none
          | some v =>
            if isLowSurrogate v then
              (readChars? rest').map (prepend (Char.ofNat (0x10000 + (u - 0xD800) * 0x400 + (v - 0xDC00))))
            else (readChars? ('\\' :: 'u' :: e :: f :: g :: h :: rest')).map fun r => (none, r.2)
        | rest => (readChars? rest).map fun r => (none, r.2)
      else if isLowSurrogate u then (readChars? rest).map fun r => (none, r.2)
      else (readChars? rest).map (prepend (Char.ofNat u))
  | '\\' :: c :: rest =>
    match unescape? c with
    | none => none
    | some e => (readChars? rest).map (prepend e)
  | c :: rest => if c.toNat < 0x20 then none else (readChars? rest).map (prepend c)

/-- Adds digits to a number as long as it stays below two to the 64th, and tells which are left. -/
def addDigits (n : Nat) : List Char → Nat × List Char
  | [] => (n, [])
  | d :: ds =>
    let sum := n * 10 + Text.digitValue d
    if sum < Nat.pow 2 64 then addDigits sum ds else (n, d :: ds)

def greatestPower : Nat := 308

def powerOfTen? (k : Nat) : Option Decimal.Binary64 := Decimal.Binary64.ofNat? (Nat.pow 10 k)

def lowered? (x : Decimal.Binary64) : Nat → Option Decimal.Binary64
  | 0 => some x
  | times + 1 => if x.isZero then some x else do lowered? (← x.over? (← powerOfTen? greatestPower)) times

def shrunk? (x : Decimal.Binary64) (k : Nat) : Option Decimal.Binary64 := do
  let times := (k - 1) / greatestPower
  let x ← lowered? x times
  x.over? (← powerOfTen? (k - times * greatestPower))

/-- The double that a decimal number is taken for: its digits and its power of ten are rounded each on its own,
and so is what they make together. None is beyond the range of doubles. -/
def double? (digits : Nat) (exponent : Int) : Option Decimal.Binary64 := do
  let x ← Decimal.Binary64.ofNat? digits
  if exponent < 0 then shrunk? x (-exponent).toNat
  else if exponent ≤ greatestPower then x.times? (← powerOfTen? exponent.toNat)
  else if x.isZero then return x
  else none

def doubleOf (negative : Bool) (digits : Nat) (exponent : Int) : Json :=
  match double? digits exponent with
  | some x => .number (.double negative x)
  | none => .unreadable .number

/-- A number that was written without fraction and exponent: an integer if it fits into 64 bits, but never `-0`. -/
def wholeOf (negative : Bool) (digits : Nat) : Json :=
  if !negative then .number (.integer digits)
  else if 0 < digits ∧ digits ≤ Nat.pow 2 63 then .number (.integer (-(digits : Int)))
  else doubleOf true digits 0

/-- The number of what is written before the point, behind it, and as exponent. Digits that do not fit into 64 bits
do not count: before the point only their number does, and behind it not even that. -/
def numberOf (negative : Bool) (whole : List Char) (fraction : Option (List Char)) (exponent : Option Int) : Json :=
  let (digits, left) := addDigits 0 whole
  if left.isEmpty ∧ fraction.isNone ∧ exponent.isNone then wholeOf negative digits
  else
    let behind := fraction.getD []
    let (digits, ignored) := addDigits digits behind
    let shift : Int := (left.length : Int) - (behind.length - ignored.length : Nat)
    doubleOf negative digits (shift + exponent.getD 0)

def readWhole? (cs : List Char) : Option (List Char × List Char) :=
  match cs.span Text.isDigit with
  | ([], _) => none
  | ('0' :: _ :: _, _) => none
  | (ds, rest) => some (ds, rest)

def readFraction? : List Char → Option (Option (List Char) × List Char)
  | '.' :: cs =>
    match cs.span Text.isDigit with
    | ([], _) => none
    | (ds, rest) => some (some ds, rest)
  | cs => some (none, cs)

def readExponent? : List Char → Option (Option Int × List Char)
  | c :: cs =>
    if c = 'e' ∨ c = 'E' then
      let (sign, cs) := match cs with
        | '-' :: cs => (-1, cs)
        | '+' :: cs => (1, cs)
        | cs => ((1 : Int), cs)
      match cs.span Text.isDigit with
      | ([], _) => none
      | (ds, rest) => some (some (sign * Text.digitsValue ds), rest)
    else some (none, c :: cs)
  | [] => some (none, [])

def readNumber? (negative : Bool) (cs : List Char) : Option (Json × List Char) := do
  let (whole, cs) ← readWhole? cs
  let (fraction, cs) ← readFraction? cs
  let (exponent, cs) ← readExponent? cs
  return (numberOf negative whole fraction exponent, cs)

def expect? : List Char → List Char → Option (List Char)
  | [], cs => some cs
  | _ :: _, [] => none
  | p :: ps, c :: cs => if p = c then expect? ps cs else none

def stop : Json × Option (List Char) := (.unreadable .text, none)

def readWord (word : List Char) (value : Json) (cs : List Char) : Json × Option (List Char) :=
  match expect? word cs with
  | some rest => (value, some rest)
  | none => stop

def readNumber (negative : Bool) (cs : List Char) : Json × Option (List Char) :=
  match readNumber? negative cs with
  | some (j, rest) => (j, some rest)
  | none => stop

mutual

/-- Reads a value. The text after it is none if the text stopped being JSON on the way. `fuel` bounds the
number of steps. -/
def readValue : Nat → List Char → Json × Option (List Char)
  | 0, _ => stop
  | fuel + 1, cs =>
    match skipSpace cs with
    | [] => stop
    | '"' :: rest =>
      match readChars? rest with
      | none => stop
      | some (some s, rest) => (.string (String.ofList s), some rest)
      | some (none, rest) => (.unreadable .string, some rest)
    | '[' :: rest =>
      match skipSpace rest with
      | ']' :: rest => (.array [], some rest)
      | rest => let (xs, rest) := readElements fuel rest; (.array xs, rest)
    | '{' :: rest =>
      match skipSpace rest with
      | '}' :: rest => (.object [], some rest)
      | rest => let (ms, rest) := readMembers fuel rest; (.object ms, rest)
    | '-' :: rest => readNumber true rest
    | 'n' :: rest => readWord ['u', 'l', 'l'] .null rest
    | 't' :: rest => readWord ['r', 'u', 'e'] (.bool true) rest
    | 'f' :: rest => readWord ['a', 'l', 's', 'e'] (.bool false) rest
    | c :: rest => if Text.isDigit c then readNumber false (c :: rest) else stop

def readElements : Nat → List Char → List Json × Option (List Char)
  | 0, _ => ([.unreadable .text], none)
  | fuel + 1, cs =>
    match readValue fuel cs with
    | (v, none) => ([v], none)
    | (v, some rest) =>
      match skipSpace rest with
      | ',' :: rest => let (vs, rest) := readElements fuel rest; (v :: vs, rest)
      | ']' :: rest => ([v], some rest)
      | _ => ([v, .unreadable .text], none)

def readMembers : Nat → List Char → List (String × Json) × Option (List Char)
  | 0, _ => ([("", .unreadable .name)], none)
  | fuel + 1, cs =>
    match skipSpace cs with
    | '"' :: rest =>
      match readChars? rest with
      | none => ([("", .unreadable .name)], none)
      | some (key, rest) =>
        let (v, rest) := match skipSpace rest with
          | ':' :: rest => readValue fuel rest
          | _ => stop
        let members := match key with
          | some key => [(String.ofList key, v)]
          | none => [("", .unreadable .key), ("", v)]
        match rest with
        | none => (members, none)
        | some rest =>
          match skipSpace rest with
          | ',' :: rest => let (ms, rest) := readMembers fuel rest; (members ++ ms, rest)
          | '}' :: rest => (members, some rest)
          | _ => (members ++ [("", .unreadable .name)], none)
    | _ => ([("", .unreadable .name)], none)

end

structure Document where
  root : Json
  ends : Bool

def readDocument (cs : List Char) : Document :=
  match readValue (2 * cs.length + 2) cs with
  | (root, none) => ⟨root, true⟩
  | (root, some rest) => ⟨root, (skipSpace rest).isEmpty⟩

def ofText? (s : String) : Option Json :=
  let doc := readDocument s.toList
  if doc.ends && doc.root.isWellFormed then some doc.root else none

end SandboxTasks.Json
