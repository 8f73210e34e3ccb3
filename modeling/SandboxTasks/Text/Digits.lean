namespace SandboxTasks.Text

def isDigit (c : Char) : Bool := '0' ≤ c && c ≤ '9'

def digitValue (c : Char) : Nat := c.toNat - '0'.toNat

def digitChar (n : Nat) : Char := Char.ofNat ('0'.toNat + n % 10)

def digitsValue (ds : List Char) : Nat := ds.foldl (fun n d => n * 10 + digitValue d) 0

def spanDigits : Nat → List Char → List Char × List Char
  | 0, cs => ([], cs)
  | _ + 1, [] => ([], [])
  | most + 1, c :: cs =>
    if isDigit c then let (ds, rest) := spanDigits most cs; (c :: ds, rest) else ([], c :: cs)

def readNumber? (most : Nat) (cs : List Char) : Option (Nat × List Char) :=
  match spanDigits most cs with
  | ([], _) => none
  | (ds, rest) => some (digitsValue ds, rest)

def padded : Nat → Nat → List Char
  | 0, _ => []
  | width + 1, n => padded width (n / 10) ++ [digitChar n]

@[simp] theorem padded_length (width n : Nat) : (padded width n).length = width := by
  induction width generalizing n with
  | zero => rfl
  | succ width ih => simp [padded, ih]

end SandboxTasks.Text
