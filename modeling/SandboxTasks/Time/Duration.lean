namespace SandboxTasks

structure Duration where
  seconds : Nat
  nanos : Nat
  seconds_lt : seconds < 18446744073709551616 := by omega
  nanos_lt : nanos < 1000000000 := by omega
deriving DecidableEq, Repr

namespace Duration

def zero : Duration := ⟨0, 0, by omega, by omega⟩

def greatest : Duration := ⟨18446744073709551615, 999999999, by omega, by omega⟩

instance : Inhabited Duration := ⟨zero⟩

def toNanos (d : Duration) : Nat := d.seconds * 1000000000 + d.nanos

def normal (s n : Nat) : Duration :=
  if h : s + n / 1000000000 < 18446744073709551616 then
    ⟨s + n / 1000000000, n % 1000000000, h, Nat.mod_lt _ (by omega)⟩
  else greatest

def ofSeconds (s : Nat) : Duration := normal s 0

def ofMillis (ms : Nat) : Duration := normal (ms / 1000) (ms % 1000 * 1000000)

def ofNanos (n : Nat) : Duration := normal 0 n

def scale (d : Duration) (k : Nat) : Duration := normal (d.seconds * k) (d.nanos * k)

/-- What is left of `a` after `b`, with a borrow from the seconds where the nanoseconds do not suffice. -/
def minus (a b : Duration) : Duration :=
  if h : b.nanos ≤ a.nanos then
    if b.seconds ≤ a.seconds then
      ⟨a.seconds - b.seconds, a.nanos - b.nanos, by have := a.seconds_lt; omega, by have := a.nanos_lt; omega⟩
    else zero
  else if b.seconds < a.seconds then
    ⟨a.seconds - b.seconds - 1, a.nanos + 1000000000 - b.nanos, by have := a.seconds_lt; omega, by omega⟩
  else zero

instance : LE Duration := ⟨fun a b => a.seconds < b.seconds ∨ a.seconds = b.seconds ∧ a.nanos ≤ b.nanos⟩

instance : LT Duration := ⟨fun a b => a.seconds < b.seconds ∨ a.seconds = b.seconds ∧ a.nanos < b.nanos⟩

instance (a b : Duration) : Decidable (a ≤ b) :=
  inferInstanceAs (Decidable (a.seconds < b.seconds ∨ a.seconds = b.seconds ∧ a.nanos ≤ b.nanos))

instance (a b : Duration) : Decidable (a < b) :=
  inferInstanceAs (Decidable (a.seconds < b.seconds ∨ a.seconds = b.seconds ∧ a.nanos < b.nanos))

def shorter (a b : Duration) : Duration := if a ≤ b then a else b

def longer (a b : Duration) : Duration := if a ≤ b then b else a

theorem le_iff {a b : Duration} : a ≤ b ↔ a.toNanos ≤ b.toNanos := by
  have ha := a.nanos_lt
  have hb := b.nanos_lt
  show (a.seconds < b.seconds ∨ a.seconds = b.seconds ∧ a.nanos ≤ b.nanos) ↔ _
  simp only [toNanos]
  omega

theorem toNanos_le_greatest (d : Duration) : d.toNanos ≤ greatest.toNanos := by
  have h₁ := d.seconds_lt
  have h₂ := d.nanos_lt
  simp only [toNanos, greatest]
  omega

theorem toNanos_normal (s n : Nat) : (normal s n).toNanos = min (s * 1000000000 + n) greatest.toNanos := by
  unfold normal
  split
  · simp only [toNanos, greatest]
    omega
  · simp only [toNanos, greatest]
    omega

theorem toNanos_scale (d : Duration) (k : Nat) : (d.scale k).toNanos = min (d.toNanos * k) greatest.toNanos := by
  rw [scale, toNanos_normal, show d.toNanos = d.seconds * 1000000000 + d.nanos from rfl, Nat.add_mul, Nat.mul_right_comm]

theorem toNanos_minus (a b : Duration) : (a.minus b).toNanos = a.toNanos - b.toNanos := by
  have ha := a.nanos_lt
  have hb := b.nanos_lt
  unfold minus
  split
  · split
    · simp only [toNanos]; omega
    · simp only [toNanos, zero]; omega
  · split
    · simp only [toNanos]; omega
    · simp only [toNanos, zero]; omega

theorem toNanos_shorter (a b : Duration) : (a.shorter b).toNanos = min a.toNanos b.toNanos := by
  unfold shorter
  split
  · next h => rw [le_iff] at h; omega
  · next h => rw [le_iff] at h; omega

theorem shorter_le (a b : Duration) : a.shorter b ≤ b := by
  rw [le_iff, toNanos_shorter]
  exact Nat.min_le_right _ _

end Duration

end SandboxTasks
