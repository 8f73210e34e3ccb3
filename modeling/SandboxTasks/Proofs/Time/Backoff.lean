import Mathlib.Algebra.Group.Nat.Defs
import SandboxTasks.Callback.Retry
import SandboxTasks.Reconcile.Policy

namespace SandboxTasks

namespace Duration

theorem scale_le_scale (d : Duration) {j k : Nat} (h : j ≤ k) : d.scale j ≤ d.scale k := by
  rw [le_iff, toNanos_scale, toNanos_scale]
  have hscaled := Nat.mul_le_mul_left d.toNanos h
  omega

theorem nanos_mul_lt (d : Duration) {k : Nat} (h : k < 2 ^ 32) : d.nanos * k < 2 ^ 64 := by
  have hnanos := d.nanos_lt
  calc
    d.nanos * k ≤ 1000000000 * 2 ^ 32 := Nat.mul_le_mul (Nat.le_of_lt hnanos) (Nat.le_of_lt h)
    _ < 2 ^ 64 := by decide

end Duration

namespace Reconcile

theorem powerOfTwo_eq (exponent : Nat) : powerOfTwo exponent = min (2 ^ exponent) (2 ^ 32 - 1) := by
  unfold powerOfTwo
  by_cases h : exponent < 32
  · have hpow : 2 ^ exponent ≤ 2 ^ 31 := Nat.pow_le_pow_right (by decide) (by omega)
    rw [if_pos h, Nat.min_eq_left (Nat.le_trans hpow (by decide))]
    rfl
  · have hpow : 2 ^ 32 ≤ 2 ^ exponent := Nat.pow_le_pow_right (by decide) (by omega)
    rw [if_neg h]
    exact (Nat.min_eq_right (Nat.le_trans (Nat.sub_le _ 1) hpow)).symm

theorem powerOfTwo_le_powerOfTwo {m n : Nat} (h : m ≤ n) : powerOfTwo m ≤ powerOfTwo n := by
  rw [powerOfTwo_eq, powerOfTwo_eq]
  have hpow : 2 ^ m ≤ 2 ^ n := Nat.pow_le_pow_right (by decide) h
  omega

namespace Policy

theorem toNanos_assignmentBackoff (p : Policy) (attempts : Nat) :
    (p.assignmentBackoff attempts).toNanos =
      min p.assignmentMaxBackoff.toNanos (p.assignmentInitialBackoff.toNanos * powerOfTwo (attempts - 1)) := by
  rw [assignmentBackoff, Duration.toNanos_shorter, Duration.toNanos_scale]
  have hmax := p.assignmentMaxBackoff.toNanos_le_greatest
  omega

theorem assignmentBackoff_le_assignmentBackoff (p : Policy) {m n : Nat} (h : m ≤ n) :
    p.assignmentBackoff m ≤ p.assignmentBackoff n := by
  rw [Duration.le_iff, toNanos_assignmentBackoff, toNanos_assignmentBackoff]
  have hpow : powerOfTwo (m - 1) ≤ powerOfTwo (n - 1) := powerOfTwo_le_powerOfTwo (by omega)
  have hscaled := Nat.mul_le_mul_left p.assignmentInitialBackoff.toNanos hpow
  omega

/-- Doubling without an end would give the same waits exactly if the limit is reached before the factor stops. -/
theorem assignmentBackoff_exact_iff (p : Policy) :
    (∀ attempts, (p.assignmentBackoff attempts).toNanos =
        min p.assignmentMaxBackoff.toNanos (p.assignmentInitialBackoff.toNanos * 2 ^ (attempts - 1))) ↔
      p.assignmentMaxBackoff.toNanos ≤ p.assignmentInitialBackoff.toNanos * (2 ^ 32 - 1) ∨
        p.assignmentInitialBackoff.toNanos = 0 := by
  simp only [toNanos_assignmentBackoff]
  generalize p.assignmentMaxBackoff.toNanos = limit
  generalize p.assignmentInitialBackoff.toNanos = initial
  constructor
  · intro h
    -- At 33 failures the exact factor is one more than what the factor can be.
    have hfirst := h 33
    rw [show powerOfTwo (33 - 1) = 2 ^ 32 - 1 from rfl, show 33 - 1 = 32 from rfl] at hfirst
    omega
  · intro h attempts
    rw [powerOfTwo_eq]
    rcases Nat.le_total (2 ^ (attempts - 1)) (2 ^ 32 - 1) with hsmall | hlarge
    · rw [Nat.min_eq_left hsmall]
    · rw [Nat.min_eq_right hlarge]
      have hscaled := Nat.mul_le_mul_left initial hlarge
      rcases h with h | rfl
      · omega
      · simp only [Nat.zero_mul]

end Policy

end Reconcile

namespace Callback.RetryPolicy

theorem delayAfter_le_delayAfter (p : RetryPolicy) {m n : Nat} (h : m ≤ n) : p.delayAfter m ≤ p.delayAfter n := by
  apply Duration.scale_le_scale
  exact Nat.pow_le_pow_right (by decide) (by omega)

end Callback.RetryPolicy

/-- Over all policies and all counts of failures. The wait after failed assignments stays within its limit and does not
get shorter from one failure to the next. It is the first wait, doubled for each failure but the first and cut off at the
limit, exactly if a factor of 32 bits takes the first wait as far as the limit, or there is nothing to double. The wait
after attempts at a callback does not get shorter either; it is the first wait doubled, sixteen times at most, up to the
greatest length there is. On the way no factor takes more than 32 bits, and no scaled nanoseconds more than 64. -/
theorem backoff_exact (p : Reconcile.Policy) (r : Callback.RetryPolicy) :
    (∀ attempts, p.assignmentBackoff attempts ≤ p.assignmentMaxBackoff) ∧
    (∀ attempts more, p.assignmentBackoff attempts ≤ p.assignmentBackoff (attempts + more)) ∧
    ((∀ attempts, (p.assignmentBackoff attempts).toNanos =
        min p.assignmentMaxBackoff.toNanos (p.assignmentInitialBackoff.toNanos * 2 ^ (attempts - 1))) ↔
      p.assignmentMaxBackoff.toNanos ≤ p.assignmentInitialBackoff.toNanos * (2 ^ 32 - 1) ∨
        p.assignmentInitialBackoff.toNanos = 0) ∧
    (∀ attempts, Reconcile.powerOfTwo (attempts - 1) < 2 ^ 32 ∧
      p.assignmentInitialBackoff.nanos * Reconcile.powerOfTwo (attempts - 1) < 2 ^ 64) ∧
    (∀ attempt more, r.delayAfter attempt ≤ r.delayAfter (attempt + more)) ∧
    (∀ attempt, (r.delayAfter attempt).toNanos =
      min (r.initialBackoff.toNanos * 2 ^ min (attempt - 1) 16) Duration.greatest.toNanos) ∧
    ∀ attempt, r.initialBackoff.nanos * 2 ^ min (attempt - 1) 16 < 2 ^ 64 := by
  refine ⟨?_, ?_, p.assignmentBackoff_exact_iff, ?_, ?_, ?_, ?_⟩
  · intro attempts
    rw [Duration.le_iff, p.toNanos_assignmentBackoff]
    exact Nat.min_le_left ..
  · intro attempts more
    exact p.assignmentBackoff_le_assignmentBackoff (Nat.le_add_right attempts more)
  · intro attempts
    have hfactor : Reconcile.powerOfTwo (attempts - 1) < 2 ^ 32 := by
      rw [Reconcile.powerOfTwo_eq]
      omega
    exact ⟨hfactor, p.assignmentInitialBackoff.nanos_mul_lt hfactor⟩
  · intro attempt more
    exact r.delayAfter_le_delayAfter (Nat.le_add_right attempt more)
  · intro attempt
    exact r.initialBackoff.toNanos_scale (2 ^ min (attempt - 1) 16)
  · intro attempt
    apply r.initialBackoff.nanos_mul_lt
    exact Nat.pow_lt_pow_right (by decide) (by omega)

end SandboxTasks
