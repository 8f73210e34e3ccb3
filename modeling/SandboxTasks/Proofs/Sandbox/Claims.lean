import SandboxTasks.Proofs.Concurrent.Uphold
import SandboxTasks.Proofs.Store.Memory
import SandboxTasks.Sandbox.Memory

namespace SandboxTasks

open Store

variable {id : String}

/-- What may be relied on of the claims of a task. Only asking for the sandbox of this very task makes one. -/
structure Claims (C : Contract id) where
  claimed : C.State → Prop
  provided {s r sandbox s'} : C.serves s (.provision r) (.ok sandbox) s' → r.id = id →
    sandbox.claim = TaskId.claimName id
  deleted {s sandbox deletion s'} : C.serves s (.deleteClaim sandbox) (.ok deletion) s' →
    sandbox.claim = TaskId.claimName id → ¬ claimed s'
  made {s op a s'} : C.serves s op a s' → claimed s' → claimed s ∨ ∃ r, op = .provision r ∧ r.id = id

def Store.Contract.beside (C : Contract id) {σ : Type} (serves : σ → (op : Operation) → op.Answer → σ → Prop) :
    Contract id where
  State := C.State × σ
  serves s op a s' := C.serves s.1 op a s'.1 ∧ serves s.2 op a s'.2
  view s := C.view s.1
  fits h := C.fits h.1
  steady h := C.steady h.1
  elsewhere h := C.elsewhere h.1
  find_ok h := C.find_ok h.1
  find_error h := C.find_error h.1
  swap_ok h := C.swap_ok h.1
  swap_error h := C.swap_error h.1
  swap_conflict h := C.swap_conflict h.1
  swap_illegal h := C.swap_illegal h.1

theorem Store.Contract.serves_beside {C : Contract id} {σ : Type} {serves : σ → (op : Operation) → op.Answer → σ → Prop}
    {s s' : C.State} {m m' : σ} {op : Operation} {a : op.Answer} (h : C.serves s op a s') (hm : serves m op a m') :
    (C.beside serves).serves (s, m) op a (s', m') :=
  ⟨h, hm⟩

theorem Store.Contract.Reliable.beside {C : Contract id} {σ : Type}
    {serves : σ → (op : Operation) → op.Answer → σ → Prop} (h : C.Reliable) : (C.beside serves).Reliable where
  find s e s' hs := h.find s.1 e s'.1 hs.1
  swap s version status e s' hs := h.swap s.1 version status e s'.1 hs.1

theorem Stores.beside {C : Contract id} {σ : Type} {serves : σ → (op : Operation) → op.Answer → σ → Prop} {m : σ}
    {instant : Instant} {state : Record → Nat → C.State} (h : Stores C.serves instant state)
    (hm : Stores serves instant fun _ _ => m) : Stores (C.beside serves).serves instant fun r n => (state r n, m) where
  find r n := ⟨h.find r n, hm.find r n⟩
  now r n := ⟨h.now r n, hm.now r n⟩
  swap r n status hstatus := ⟨h.swap r n status hstatus, hm.swap r n status hstatus⟩

theorem TaskId.claimName_inj {i j : String} (h : claimName i = claimName j) : i = j :=
  (String.append_right_inj claimMark).mp h

namespace Sandbox.Memory

variable {m m' : Memory} {name : String}

theorem mem_insertClaim {c d : Claim} {cs : List Claim} : d ∈ insertClaim c cs ↔ d = c ∨ d ∈ cs := by
  induction cs with
  | nil => simp [insertClaim]
  | cons e es ih =>
      unfold insertClaim
      split
      · exact List.mem_cons
      · rw [List.mem_cons, List.mem_cons, ih, or_left_comm]

/-- How the claims answer. Requests that do not concern them are answered by others. -/
def Serves (m : Memory) : (op : Operation) → op.Answer → Memory → Prop
  | .provision r, a, m' => ∃ now, m.provision r.id now = (a, m')
  | .poll sandbox, a, m' => a = .ok (m.poll sandbox.claim) ∧ m' = m
  | .deleteClaim sandbox, a, m' => a = .ok (m.delete sandbox.claim).1 ∧ m' = (m.delete sandbox.claim).2
  | .claims, a, m' => a = .ok m.summaries ∧ m' = m
  | _, _, m' => m' = m

theorem stores (m : Memory) (instant : Instant) : Stores Serves instant fun _ _ => m :=
  ⟨fun _ _ => rfl, fun _ _ => rfl, fun _ _ _ _ => rfl⟩

theorem claim?_isSome : (m.claim? name).isSome ↔ ∃ c ∈ m.claims, c.name = name := by
  simp [claim?, List.find?_isSome]

theorem claim?_provision {i : String} {now : Instant} (h : ((m.provision i now).2.claim? name).isSome) :
    (m.claim? name).isSome ∨ TaskId.claimName i = name := by
  rw [claim?_isSome] at h ⊢
  obtain ⟨c, hc, rfl⟩ := h
  unfold provision at hc
  split at hc
  · exact .inl ⟨c, hc, rfl⟩
  · dsimp only at hc
    split at hc
    · exact .inl ⟨c, hc, rfl⟩
    · rcases mem_insertClaim.mp hc with rfl | hc
      · exact .inr rfl
      · exact .inl ⟨c, hc, rfl⟩

theorem claim?_delete {other : String} (h : ((m.delete other).2.claim? name).isSome) :
    (m.claim? name).isSome ∧ other ≠ name := by
  rw [claim?_isSome] at h ⊢
  obtain ⟨c, hc, rfl⟩ := h
  unfold delete at hc
  dsimp only at hc
  split at hc
  · next hsome =>
      have hmem := List.mem_filter.mp hc
      exact ⟨⟨c, hmem.1, rfl⟩, by simpa using Ne.symm (by simpa using hmem.2)⟩
  · next hnone =>
      refine ⟨⟨c, hc, rfl⟩, ?_⟩
      rintro rfl
      simp [claim?] at hnone
      exact hnone c hc rfl

theorem claim_of_provision {i : String} {now : Instant} {sandbox : SandboxRef}
    (h : m.provision i now = (.ok sandbox, m')) : sandbox.claim = TaskId.claimName i := by
  unfold provision at h
  split at h
  · cases h
  · dsimp only at h
    split at h
    · cases h
      rfl
    · cases h
      rfl

def beside (C : Contract id) : Claims (C.beside Serves) where
  claimed s := s.2.holds id
  provided h hid := by
    obtain ⟨-, now, h⟩ := h
    rw [claim_of_provision h, hid]
  deleted h hclaim := by
    obtain ⟨-, -, h⟩ := h
    rw [h]
    intro hheld
    exact (claim?_delete hheld).2 hclaim
  made {s op a s'} h hheld := by
    obtain ⟨-, h⟩ := h
    cases op with
    | provision r =>
        obtain ⟨now, h⟩ := h
        have hs' : s'.2 = (s.2.provision r.id now).2 := by rw [h]
        rw [hs'] at hheld
        exact (claim?_provision hheld).imp_right fun hname => ⟨r, rfl, TaskId.claimName_inj hname⟩
    | deleteClaim sandbox =>
        obtain ⟨-, h⟩ := h
        rw [h] at hheld
        exact .inl (claim?_delete hheld).1
    | poll | claims =>
        obtain ⟨-, h⟩ := h
        exact .inl (h ▸ hheld)
    | _ =>
        have hs' : s'.2 = s.2 := h
        exact .inl (hs' ▸ hheld)

end Sandbox.Memory

end SandboxTasks
