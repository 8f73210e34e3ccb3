namespace SandboxTasks.Text.Hex

def digit (n : Nat) : Char := if n < 10 then Char.ofNat (48 + n) else Char.ofNat (87 + n)

def value? (c : Char) : Option Nat :=
  let n := c.toNat
  if 48 ≤ n ∧ n ≤ 57 then some (n - 48)
  else if 97 ≤ n ∧ n ≤ 102 then some (n - 87)
  else if 65 ≤ n ∧ n ≤ 70 then some (n - 55)
  else none

def encode : List UInt8 → List Char
  | [] => []
  | b :: bs => digit (b.toNat / 16) :: digit (b.toNat % 16) :: encode bs

/-- Refuses an odd number of characters and any that is no digit. -/
def decode : List Char → Option (List UInt8)
  | [] => some []
  | [_] => none
  | h :: l :: cs => do
    let h ← value? h
    let l ← value? l
    let bs ← decode cs
    return UInt8.ofNat (h * 16 + l) :: bs

def ofNat (n : Nat) : List Char := if n < 16 then [digit n] else ofNat (n / 16) ++ [digit (n % 16)]

theorem value?_digit {n : Nat} (h : n < 16) : value? (digit n) = some n := by
  have : ∀ m < 16, value? (digit m) = some m := by decide
  exact this n h

theorem decode_encode (bs : List UInt8) : decode (encode bs) = some bs := by
  induction bs with
  | nil => rfl
  | cons b bs ih =>
    have h₁ : b.toNat / 16 < 16 := by have := b.toNat_lt; omega
    have h₂ : b.toNat % 16 < 16 := Nat.mod_lt _ (by omega)
    have h₃ : UInt8.ofNat (b.toNat / 16 * 16 + b.toNat % 16) = b := by
      rw [show b.toNat / 16 * 16 + b.toNat % 16 = b.toNat by omega, UInt8.ofNat_toNat]
    simp only [encode, decode, value?_digit h₁, value?_digit h₂, ih, bind, Option.bind, pure, h₃]

@[simp] theorem encode_length (bs : List UInt8) : (encode bs).length = 2 * bs.length := by
  induction bs with
  | nil => rfl
  | cons b bs ih => simp [encode, ih]; omega

end SandboxTasks.Text.Hex
