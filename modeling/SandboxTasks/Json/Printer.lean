import SandboxTasks.Decimal.Shortest
import SandboxTasks.Json.Basic
import SandboxTasks.Text.Hex

namespace SandboxTasks.Json

def escape (c : Char) : List Char :=
  if c = '"' then ['\\', '"']
  else if c = '\\' then ['\\', '\\']
  else if 0x20 ≤ c.toNat then [c]
  else if c.toNat = 8 then ['\\', 'b']
  else if c.toNat = 9 then ['\\', 't']
  else if c.toNat = 10 then ['\\', 'n']
  else if c.toNat = 12 then ['\\', 'f']
  else if c.toNat = 13 then ['\\', 'r']
  else ['\\', 'u', '0', '0', Text.Hex.digit (c.toNat / 16), Text.Hex.digit (c.toNat % 16)]

def printString (s : String) : List Char := '"' :: s.toList.flatMap escape ++ ['"']

def printInt (i : Int) : List Char := (toString i).toList

def printPoint (digits : List Char) (whole : Int) : List Char :=
  let before := digits.take whole.toNat ++ List.replicate (whole.toNat - digits.length) '0'
  let behind := List.replicate (-whole).toNat '0' ++ digits.drop whole.toNat
  (if before.isEmpty then ['0'] else before) ++ '.' :: (if behind.isEmpty then ['0'] else behind)

def printExponent (digits : List Char) (exponent : Int) : List Char :=
  digits.take 1 ++ (if digits.length = 1 then [] else '.' :: digits.drop 1) ++ 'e' :: printInt exponent

/-- Doubles have the fewest digits that read back. They are written with a point as long as not more than 16 digits
stand before it and not more than 4 zeros behind it. -/
def printDouble (x : Decimal.Binary64) : List Char :=
  if x.isZero then ['0', '.', '0']
  else
    let s := x.shortest
    let digits := (toString s.digits).toList
    let whole := s.exponent + digits.length
    if -5 < whole ∧ whole ≤ 16 then printPoint digits whole else printExponent digits (whole - 1)

def printNumber : Number → List Char
  | .integer i => printInt i
  | .double negative size => (if negative then ['-'] else []) ++ printDouble size

mutual

def print : Json → List Char
  | .null => "null".toList
  | .bool b => (if b then "true" else "false").toList
  | .number n => printNumber n
  | .string s => printString s
  | .array [] => ['[', ']']
  | .array (x :: xs) => '[' :: print x ++ printElements xs
  | .object [] => ['{', '}']
  | .object ((k, v) :: ms) => '{' :: printString k ++ ':' :: print v ++ printMembers ms
  | .unreadable _ => []

def printElements : List Json → List Char
  | [] => [']']
  | x :: xs => ',' :: print x ++ printElements xs

def printMembers : List (String × Json) → List Char
  | [] => ['}']
  | (k, v) :: ms => ',' :: printString k ++ ':' :: print v ++ printMembers ms

end

def toText (j : Json) : String := String.ofList j.print

end SandboxTasks.Json
