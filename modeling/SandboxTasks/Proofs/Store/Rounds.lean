import SandboxTasks.Proofs.Conduct
import SandboxTasks.Store.Modify

namespace SandboxTasks.Store

variable {σ : Type} {E : Surroundings σ} {may : History → σ → Operation → Prop} {id : String} {change : Change}
  {before : Nat → History → σ → Prop} {read : Nat → Versioned → History → σ → Prop}
  {clocked : Nat → Versioned → Instant → History → σ → Prop}
  {ends : Except StoreError Modified → History → σ → Prop}

/-- What holds along a change: `before` a round, by the number of rounds that are left, then of the record that was
`read`, then by the time it was `clocked`, and where it `ends`. A round that is lost leaves one less. -/
structure Rounds (E : Surroundings σ) (may : History → σ → Operation → Prop) (id : String) (change : Change)
    (before : Nat → History → σ → Prop) (read : Nat → Versioned → History → σ → Prop)
    (clocked : Nat → Versioned → Instant → History → σ → Prop)
    (ends : Except StoreError Modified → History → σ → Prop) : Prop where
  exhausted : ∀ past s, before 0 past s → ends (.error (.conflict id)) past s
  find : ∀ k, Asks E may (before (k + 1)) (.find id) fun
    | .ok (some q) => read k q
    | .ok none => ends (.error (.notFound id))
    | .error e => ends (.error e)
  now : ∀ k q, Asks E may (read k q) .now (clocked k q)
  unchanged : ∀ k q now past s, clocked k q now past s → change now q.record = none → ends (.ok (.unchanged q)) past s
  swap : ∀ k q now next, change now q.record = some next → Asks E may (clocked k q now) (.swap id q.version next) fun
    | .ok t => ends (.ok (.applied t))
    | .error (.conflict _) => before k
    | .error e => ends (.error e)

theorem Rounds.upholds (h : Rounds E may id change before read clocked ends) (rounds : Nat) {past : History} {s : σ}
    (hbefore : before rounds past s) :
    Upholds E may (fun past s result => ends result past s) past s (modifyWithin rounds id change) := by
  induction rounds generalizing past s with
  | zero => exact h.exhausted past s hbefore
  | succ rounds ih =>
      intro s₁ h₁
      obtain ⟨hmay, hfound⟩ := h.find rounds past s hbefore s₁ h₁
      refine ⟨hmay, fun found s₂ hs => ?_⟩
      have hread := hfound found s₂ hs
      rcases found with e | _ | q
      · exact hread
      · exact hread
      · intro s₃ h₃
        obtain ⟨hmay, hnow⟩ := h.now rounds q _ _ hread s₃ h₃
        refine ⟨hmay, fun now s₄ hs => ?_⟩
        have hclocked := hnow now s₄ hs
        cases hnext : change now q.record with
        | none =>
            simp only [Program.bind, hnext]
            exact h.unchanged rounds q now _ _ hclocked hnext
        | some next =>
            simp only [Program.bind, hnext]
            intro s₅ h₅
            obtain ⟨hmay, hswapped⟩ := h.swap rounds q now next hnext _ _ hclocked s₅ h₅
            refine ⟨hmay, fun swapped s₆ hs => ?_⟩
            have hafter := hswapped swapped s₆ hs
            cases swapped with
            | ok t => exact hafter
            | error e =>
                cases e with
                | conflict => exact ih hafter
                | notFound | alreadyExists | illegalTransition | malformed | cluster => exact hafter

end SandboxTasks.Store
