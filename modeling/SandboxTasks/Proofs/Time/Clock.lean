import Mathlib.Order.Defs.PartialOrder
import SandboxTasks.Proofs.Sandbox.Claims

namespace SandboxTasks

/-- One instant comes before another as a clock shows them: by the second, of which a leap second is a part, and then by
the time since. -/
instance : LE Instant :=
  ⟨fun t u => t.epochSeconds < u.epochSeconds ∨ t.epochSeconds = u.epochSeconds ∧ t.nanos ≤ u.nanos⟩

theorem Instant.le_iff {t u : Instant} :
    t ≤ u ↔ t.epochSeconds < u.epochSeconds ∨ t.epochSeconds = u.epochSeconds ∧ t.nanos ≤ u.nanos := Iff.rfl

instance : DecidableLE Instant := fun _ _ => decidable_of_iff _ Instant.le_iff.symm

instance : Preorder Instant where
  le_refl t := .inr ⟨rfl, le_rfl⟩
  le_trans t u v h h' := by
    rw [Instant.le_iff] at h h' ⊢
    omega

variable {id : String}

/-- The clock beside a store. Every client that asks for the time is told what it shows in between. -/
structure Clock (C : Store.Contract id) where
  reading : C.State → Instant
  told {s now s'} : C.serves s .now now s' → reading s ≤ now ∧ now ≤ reading s'
  forward {s op a s'} : C.serves s op a s' → reading s ≤ reading s'

namespace Clock

variable {C : Store.Contract id}

def Serves (shown : Instant) : (op : Operation) → op.Answer → Instant → Prop
  | .now, now, shown' => shown ≤ now ∧ shown' = now
  | _, _, shown' => shown' = shown

theorem stores (instant : Instant) : Stores Serves instant fun _ _ => instant :=
  ⟨fun _ _ => rfl, fun _ _ => ⟨le_rfl, rfl⟩, fun _ _ _ _ => rfl⟩

def besideStore (C : Store.Contract id) : Clock (C.beside Serves) where
  reading s := s.2
  told h := by
    obtain ⟨-, hle, he⟩ := h
    exact ⟨hle, he.ge⟩
  forward {s op a s'} h := by
    obtain ⟨-, h⟩ := h
    cases op with
    | now => exact h.1.trans h.2.ge
    | _ => exact ge_of_eq h

def beside {σ : Type} {serves : σ → (op : Operation) → op.Answer → σ → Prop} (clock : Clock C) :
    Clock (C.beside serves) where
  reading s := clock.reading s.1
  told h := clock.told h.1
  forward h := clock.forward h.1

end Clock

end SandboxTasks
