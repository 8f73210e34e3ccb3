import SandboxTasks.Text.Digits

namespace SandboxTasks.Http.Domain.Punycode

def digitChar (d : Nat) : Char := if d < 26 then Char.ofNat (97 + d) else Char.ofNat (22 + d)

def digitValue? (c : Char) : Option Nat :=
  if 'a' ≤ c && c ≤ 'z' then some (c.toNat - 97)
  else if 'A' ≤ c && c ≤ 'Z' then some (c.toNat - 65)
  else if Text.isDigit c then some (Text.digitValue c + 26)
  else none

/-- Below this a digit is the last of its number; `k` counts digits in steps of 36. -/
def threshold (k bias : Nat) : Nat := min 26 (max 1 (k - bias))

theorem one_le_threshold (k bias : Nat) : 1 ≤ threshold k bias := by simp only [threshold]; omega

def skew (delta k : Nat) : Nat := if 455 < delta then skew (delta / 35) (k + 36) else k + 36 * delta / (delta + 38)

/-- The bias behind a number, of which there are now `count` characters. -/
def adapted (delta count : Nat) (isFirst : Bool) : Nat :=
  let delta := if isFirst then delta / 700 else delta / 2
  skew (delta + delta / count) 0

def writeNumber (bias k n : Nat) : List Char :=
  let t := threshold k bias
  if n < t then [digitChar n]
  else digitChar (t + (n - t) % (36 - t)) :: writeNumber bias (k + 36) ((n - t) / (36 - t))
termination_by n
decreasing_by
  have h₁ := one_le_threshold k bias
  have h₂ := Nat.div_le_self (n - threshold k bias) (36 - threshold k bias)
  omega

structure Writing where
  text : List Char
  delta : Nat
  bias : Nat
  count : Nat

def Writing.pass (plain turn : Nat) (w : Writing) (c : Nat) : Writing :=
  if c < turn then { w with delta := w.delta + 1 }
  else if c = turn then
    ⟨w.text ++ writeNumber w.bias 36 w.delta, 0, adapted w.delta (w.count + 1) (w.count = plain), w.count + 1⟩
  else w

def writeFrom (label : List Nat) (plain low : Nat) (w : Writing) : List Nat → List Char
  | [] => w.text
  | c :: kinds =>
    let w := label.foldl (Writing.pass plain c) { w with delta := w.delta + (c - low) * (w.count + 1) }
    writeFrom label plain (c + 1) { w with delta := w.delta + 1 } kinds

def isPlain (c : Nat) : Bool := c < 0x80

def encode (label : List Nat) : List Char :=
  let plain := label.filter isPlain
  let kinds := ((label.filter (!isPlain ·)).mergeSort).eraseDups
  let front := if plain.isEmpty then [] else plain.map Char.ofNat ++ ['-']
  front ++ writeFrom label plain.length 0x80 ⟨[], 0, 72, plain.length⟩ kinds

def limit : Nat := 4294967295

def readNumber? (bias k weight sum : Nat) : List Char → Option (Nat × List Char)
  | [] => none
  | c :: cs =>
    match digitValue? c with
    | none => none
    | some d =>
      let t := threshold k bias
      if limit < sum + d * weight then none
      else if d < t then some (sum + d * weight, cs)
      else if limit < weight * (36 - t) then none
      else readNumber? bias (k + 36) (weight * (36 - t)) (sum + d * weight) cs

theorem length_of_readNumber? {bias k weight sum : Nat} {cs rest : List Char} {n : Nat}
    (h : readNumber? bias k weight sum cs = some (n, rest)) : rest.length < cs.length := by
  induction cs generalizing k weight sum with
  | nil => simp [readNumber?] at h
  | cons c cs ih =>
    rw [readNumber?] at h
    split at h
    · simp at h
    · simp only at h
      split at h
      · simp at h
      · split at h
        · simp only [Option.some.injEq, Prod.mk.injEq] at h
          simp [← h.2]
        · split at h
          · simp at h
          · exact Nat.lt_succ_of_lt (ih h)

/-- Places characters one by one, the next of which is at least `low` and not in front of `place`. -/
def readFrom? (bias low place : Nat) (placed : List Nat) (cs : List Char) : Option (List Nat) :=
  match cs with
  | [] => some placed
  | c :: cs =>
    match _h : readNumber? bias 36 1 place (c :: cs) with
    | none => none
    | some (n, rest) =>
      let count := placed.length + 1
      let kind := low + n / count
      if !kind.isValidChar then none
      else readFrom? (adapted (n - place) count (place = 0)) kind (n % count + 1) (placed.insertIdx (n % count) kind) rest
termination_by cs.length
decreasing_by exact length_of_readNumber? _h

def decode? (text : List Char) : Option (List Nat) :=
  let back := text.reverse.takeWhile (· ≠ '-')
  let front := ((text.reverse.dropWhile (· ≠ '-')).drop 1).reverse
  if front.isEmpty then readFrom? 72 0x80 0 [] text
  else readFrom? 72 0x80 0 (front.map Char.toNat) back.reverse

end SandboxTasks.Http.Domain.Punycode
