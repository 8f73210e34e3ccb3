import SandboxTasks.Text.Blank
import SandboxTasks.Text.Digits
import SandboxTasks.Time.Calendar
import SandboxTasks.Time.Duration

namespace SandboxTasks

structure Instant where
  nanos : Int
  leap : Bool
deriving DecidableEq, Repr

namespace Instant

def ofNanos (n : Int) : Instant := ⟨n, false⟩

instance : Inhabited Instant := ⟨ofNanos 0⟩

def nanosPerSecond : Int := 1000000000

def nanosPerDay : Int := 86400000000000

/-- Nanoseconds since midnight. A leap second belongs to the minute it ends. -/
def timeOfDay (t : Instant) : Int := (if t.leap then t.nanos - nanosPerSecond else t.nanos) % nanosPerDay

/-- Seconds from `t` to `now`. A leap second counts once the clock shows a later time of day. -/
def distance (now t : Instant) : Int :=
  let leapt := if t.leap && !now.leap && t.timeOfDay / nanosPerSecond < now.timeOfDay / nanosPerSecond then nanosPerSecond else 0
  now.nanos - t.nanos + leapt

def elapsed (now t : Instant) : Duration := Duration.ofNanos (distance now t).toNat

def later (t : Instant) (d : Duration) : Instant := ⟨t.nanos + d.toNanos, t.leap⟩

def epochSeconds (t : Instant) : Int := (if t.leap then t.nanos - nanosPerSecond else t.nanos) / nanosPerSecond

/-- The fraction of a second, in the fewest of 0, 3, 6 or 9 digits that show it exactly. -/
def fractionText (n : Nat) : List Char :=
  if n = 0 then []
  else if n % 1000000 = 0 then '.' :: Text.padded 3 (n / 1000000)
  else if n % 1000 = 0 then '.' :: Text.padded 6 (n / 1000)
  else '.' :: Text.padded 9 n

/-- A year takes four digits, or a sign and as many as it needs. -/
def yearText (y : Int) : List Char :=
  if 0 ≤ y ∧ y ≤ 9999 then Text.padded 4 y.toNat
  else
    let digits := (toString y.natAbs).toList
    (if y < 0 then '-' else '+') :: (List.replicate (4 - digits.length) '0' ++ digits)

def toChars (t : Instant) : List Char :=
  let shown := if t.leap then t.nanos - nanosPerSecond else t.nanos
  let date := Date.ofDays (shown / nanosPerDay)
  let ofDay := (shown % nanosPerDay).toNat
  let second := ofDay / 1000000000
  yearText date.year ++ '-' :: Text.padded 2 date.month ++ '-' :: Text.padded 2 date.day ++
    'T' :: Text.padded 2 (second / 3600) ++ ':' :: Text.padded 2 (second / 60 % 60) ++
    ':' :: Text.padded 2 (second % 60 + if t.leap then 1 else 0) ++
    fractionText (ofDay % 1000000000) ++ ['Z']

def toText (t : Instant) : String := String.ofList t.toChars

def readPart? (most : Nat) (cs : List Char) : Option (Nat × List Char) := Text.readNumber? most (Text.dropBlanks cs)

def readMark? (mark : Char) (cs : List Char) : Option (List Char) :=
  match Text.dropBlanks cs with
  | c :: rest => if c = mark then some rest else none
  | [] => none

/-- A year of up to four digits, or of any number of digits behind a sign. -/
def readYear? (cs : List Char) : Option (Int × List Char) :=
  match Text.dropBlanks cs with
  | '-' :: rest => (Text.readNumber? rest.length rest).map fun (n, rest) => (-(n : Int), rest)
  | '+' :: rest => (Text.readNumber? rest.length rest).map fun (n, rest) => ((n : Int), rest)
  | cs => (Text.readNumber? 4 cs).map fun (n, rest) => ((n : Int), rest)

/-- The nanoseconds of an optional fraction; digits after the ninth are dropped. -/
def readFraction? : List Char → Option (Nat × List Char)
  | '.' :: cs =>
    match Text.spanDigits 9 cs with
    | ([], _) => none
    | (ds, rest) => some (Text.digitsValue ds * Nat.pow 10 (9 - ds.length), rest.dropWhile Text.isDigit)
  | cs => some (0, cs)

/-- Seconds east of UTC: `Z`, `UTC`, or a sign, two digits, optional colons and blanks, and two digits. -/
def readOffset? : List Char → Option (Int × List Char)
  | [] => none
  | c :: cs =>
    if c = 'Z' ∨ c = 'z' then some (0, cs)
    else if (c :: cs.take 2).map Char.toUpper = ['U', 'T', 'C'] then some (0, cs.drop 2)
    else if c = '+' ∨ c = '-' ∨ c = '−' then
      match cs with
      | h₁ :: h₂ :: cs =>
        match cs.dropWhile (fun c => c == ':' || Text.isBlank c) with
        | m₁ :: m₂ :: cs =>
          if [h₁, h₂, m₁, m₂].all Text.isDigit ∧ m₁ ≤ '5' then
            let offset : Int := Text.digitsValue [h₁, h₂] * 3600 + Text.digitsValue [m₁, m₂] * 60
            if offset < 86400 then some (if c = '+' then offset else -offset, cs) else none
          else none
        | _ => none
      | _ => none
    else none

def yearInRange (y : Int) : Bool := -262143 ≤ y && y ≤ 262142

def ofChars? (cs : List Char) : Option Instant := do
  let (year, cs) ← readYear? cs
  let cs ← readMark? '-' cs
  let (month, cs) ← readPart? 2 cs
  let cs ← readMark? '-' cs
  let (day, cs) ← readPart? 2 cs
  let cs ← match cs with
    | c :: cs => if c = 'T' ∨ c = 't' ∨ c = ' ' then some cs else none
    | [] => none
  let (hour, cs) ← readPart? 2 cs
  let cs ← readMark? ':' cs
  let (minute, cs) ← readPart? 2 cs
  let cs ← readMark? ':' cs
  let (second, cs) ← readPart? 2 cs
  let (fraction, cs) ← readFraction? cs
  let (offset, cs) ← readOffset? (Text.dropBlanks cs)
  guard (Text.dropBlanks cs).isEmpty
  let date : Date := ⟨year, month, day⟩
  guard (yearInRange year ∧ date.Exists ∧ hour ≤ 23 ∧ minute ≤ 59 ∧ second ≤ 60)
  let seconds := date.toDays * 86400 + hour * 3600 + minute * 60 + second - offset
  return ⟨seconds * nanosPerSecond + fraction, second == 60⟩

def ofText? (s : String) : Option Instant := ofChars? s.toList

end Instant

end SandboxTasks
