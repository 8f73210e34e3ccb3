import Mathlib.Logic.Basic
import SandboxTasks.Proofs.Conduct
import SandboxTasks.Proofs.Text.Digits

namespace SandboxTasks.Store.Memory

theorem id_of_stored {m : Memory} {id : String} {e : Entry} (h : m.stored? id = some e) : e.record.id = id := by
  simpa using List.find?_some h

theorem find_of_stored {m : Memory} {id : String} {e : Entry} (h : m.stored? id = some e) :
    m.find id = some e.versioned := by
  rw [find, h, Option.map_some]

theorem find_eq {m : Memory} {id : String} {t : Versioned} (h : m.find id = some t) :
    ∃ e, m.stored? id = some e ∧ t = e.versioned := by
  obtain ⟨e, he, rfl⟩ := Option.map_eq_some_iff.mp h
  exact ⟨e, he, rfl⟩

theorem find?_replace {es : List Entry} {id : String} {e : Entry} (he : e.record.id = id) (j : String) :
    (es.map fun f => if f.record.id = id then e else f).find? (·.record.id == j) =
      (es.find? (·.record.id == j)).map fun f => if f.record.id = id then e else f := by
  rw [List.find?_map]
  congr 2
  funext f
  by_cases hf : f.record.id = id <;> simp [hf, he]

theorem find?_insertEntry {e : Entry} {es : List Entry} {j : String} (h : e.record.id ≠ j) :
    (insertEntry e es).find? (·.record.id == j) = es.find? (·.record.id == j) := by
  induction es with
  | nil => simp [insertEntry, h]
  | cons f es ih =>
      by_cases hlt : e.record.id < f.record.id
      · simp [insertEntry, hlt, h]
      · simp only [insertEntry, hlt, if_false, List.find?_cons, ih]

theorem stored_create {m : Memory} {id j : String} {spec : TaskSpec} {uid : String} {now : Instant}
    (h : j = id → (m.stored? j).isSome) : (m.create id spec uid now).2.stored? j = m.stored? j := by
  unfold create
  split
  · rfl
  · next hnone =>
      have hne : id ≠ j := fun he => hnone (he ▸ h he.symm)
      exact find?_insertEntry hne

theorem stored_erase {m : Memory} {id j : String} :
    (m.erase id).2.stored? j = if id = j then none else m.stored? j := by
  simp only [erase, stored?, List.find?_filter]
  split
  · next h => subst h; simp
  · next h =>
      congr 1
      funext f
      by_cases hf : f.record.id = j
      · simp [hf, Ne.symm h]
      · simp [hf]

inductive Swaps (m : Memory) (id version : String) (status : Status) : Except StoreError Versioned → Memory → Prop
  | absent (h : m.stored? id = none) : Swaps m id version status (.error (.notFound id)) m
  | stale {e} (h : m.stored? id = some e) (hv : toString e.version ≠ version) :
      Swaps m id version status (.error (.conflict id)) m
  | illegal {e} (h : m.stored? id = some e) (hv : toString e.version = version)
      (hl : e.record.status.mayBecome status = false) :
      Swaps m id version status (.error (.illegalTransition id e.record.status.phase status.phase)) m
  | written {e m'} (h : m.stored? id = some e) (hv : toString e.version = version)
      (hat : ∀ j, m'.stored? j = if id = j then some (Entry.write e status) else m.stored? j) :
      Swaps m id version status (.ok (Entry.write e status).versioned) m'

theorem swap_swaps (m : Memory) (id version : String) (status : Status) :
    Swaps m id version status (m.swap id version status).1 (m.swap id version status).2 := by
  unfold swap
  cases h : m.stored? id with
  | none => exact .absent h
  | some e =>
      by_cases hv : toString e.version = version
      · cases hl : e.record.status.mayBecome status with
        | false => simpa [hv, hl] using Swaps.illegal h hv hl
        | true =>
            simp only [hv, hl, ne_eq, not_true_eq_false, if_false, if_true]
            refine .written h hv fun j => ?_
            have hid : e.record.id = id := id_of_stored h
            have hw : (Entry.write e status).record.id = id := hid
            simp only [stored?, find?_replace hw]
            split
            · next hj =>
                have he : m.entries.find? (·.record.id == j) = some e := hj ▸ h
                simp [he, hid]
            · next hj =>
                cases hf : m.entries.find? (·.record.id == j) with
                | none => rfl
                | some f =>
                    have hne : f.record.id ≠ id := (id_of_stored (m := m) hf).trans_ne (Ne.symm hj)
                    simp [hne]
      · simp only [ne_eq, hv, not_false_eq_true, if_true]
        exact .stale h hv

theorem swaps_of_eq {m m' : Memory} {id version : String} {status : Status} {a : Except StoreError Versioned}
    (h : m.swap id version status = (a, m')) : Swaps m id version status a m' := by
  simpa only [h] using swap_swaps m id version status

/-- How the store answers, and what it holds afterwards. Requests that do not concern it are answered by others. -/
def Serves (id : String) (m : Memory) : (op : Operation) → op.Answer → Memory → Prop
  | .find i, a, m' => a = .ok (m.find i) ∧ m' = m
  | .list, a, m' => a = .ok m.list ∧ m' = m
  | .create i spec, a, m' => (i = id → (m.stored? id).isSome) ∧ ∃ uid now, m.create i spec uid now = (a, m')
  | .swap i version status, a, m' => m.swap i version status = (a, m')
  | .erase i, a, m' => a = .ok (m.erase i).1 ∧ m' = (m.erase i).2
  | _, _, m' => m' = m

/-- The versions below the current one are retired, and all of them once the task is gone. -/
def view (id : String) (m : Memory) : View where
  current := m.find id
  retired x := ∀ e, m.stored? id = some e → ∃ n < e.version, x = toString n
  fresh t ht hr := by
    obtain ⟨e, he, rfl⟩ := find_eq ht
    obtain ⟨n, hn, hx⟩ := hr e he
    exact (Nat.ne_of_lt hn).symm (Text.toString_inj hx)

theorem view_eq_of_stored {id : String} {m m' : Memory} (h : m'.stored? id = m.stored? id) :
    view id m' = view id m := by
  simp only [view, find, h]

theorem rewritten_erase (id : String) (m : Memory) : (view id m).Rewritten (view id (m.erase id).2) := by
  have hnone : (m.erase id).2.stored? id = none := by simp [stored_erase]
  refine ⟨fun x _ e he => ?_, fun t _ e he => ?_⟩ <;> simp [hnone] at he

theorem rewritten_write {id : String} {m m' : Memory} {e : Entry} {status : Status} (h : m.stored? id = some e)
    (h' : m'.stored? id = some (Entry.write e status)) : (view id m).Rewritten (view id m') := by
  refine ⟨fun x hx f hf => ?_, fun t ht f hf => ?_⟩
  · obtain ⟨n, hn, rfl⟩ := hx e h
    cases h'.symm.trans hf
    exact ⟨n, Nat.lt_succ_of_lt hn, rfl⟩
  · obtain ⟨g, hg, rfl⟩ := find_eq ht
    cases h.symm.trans hg
    cases h'.symm.trans hf
    exact ⟨e.version, Nat.lt_succ_self _, rfl⟩

theorem serves_steady {id : String} {m m' : Memory} {op : Operation} {a : op.Answer} (h : m.Serves id op a m') :
    view id m' = view id m ∨ (view id m).Rewritten (view id m') := by
  cases op with
  | create i spec =>
      obtain ⟨hi, uid, now, he⟩ := h
      have hm : m' = (m.create i spec uid now).2 := by rw [he]
      exact .inl (view_eq_of_stored (hm ▸ stored_create fun hid => hi hid.symm))
  | swap i version status =>
      cases swaps_of_eq h with
      | absent | stale | illegal => exact .inl rfl
      | written he _ hat =>
          by_cases hi : i = id
          · subst hi
            exact .inr (rewritten_write he ((hat i).trans (if_pos rfl)))
          · exact .inl (view_eq_of_stored ((hat id).trans (if_neg hi)))
  | erase i =>
      obtain ⟨_, rfl⟩ := h
      by_cases hi : i = id
      · exact .inr (hi ▸ rewritten_erase i m)
      · exact .inl (view_eq_of_stored (by simp [stored_erase, hi]))
  | find i | list =>
      obtain ⟨_, rfl⟩ := h
      exact .inl rfl
  | _ =>
      cases h
      exact .inl rfl

theorem serves_elsewhere {id : String} {m m' : Memory} {op : Operation} {a : op.Answer} (h : m.Serves id op a m')
    (hop : ¬ op.WritesTo id) : view id m' = view id m := by
  cases op with
  | create i spec =>
      obtain ⟨_, uid, now, he⟩ := h
      have hm : m' = (m.create i spec uid now).2 := by rw [he]
      exact view_eq_of_stored (hm ▸ stored_create fun hid => absurd hid.symm hop)
  | swap i version status =>
      cases swaps_of_eq h with
      | absent | stale | illegal => rfl
      | written he _ hat => exact view_eq_of_stored ((hat id).trans (if_neg hop))
  | erase i =>
      obtain ⟨_, rfl⟩ := h
      have hi : i ≠ id := hop
      exact view_eq_of_stored (by simp [stored_erase, hi])
  | find i | list =>
      obtain ⟨_, rfl⟩ := h
      rfl
  | _ =>
      cases h
      rfl

theorem serves_fits {id : String} {m m' : Memory} {op : Operation} {a : op.Answer} (h : m.Serves id op a m') :
    op.Fits a := by
  cases op with
  | find i =>
      obtain ⟨rfl, _⟩ := h
      cases hf : m.find i with
      | none => trivial
      | some t =>
          obtain ⟨e, he, rfl⟩ := find_eq hf
          exact id_of_stored he
  | swap i version status =>
      cases swaps_of_eq h with
      | absent | stale | illegal => trivial
      | @written e _ he => exact ⟨id_of_stored (e := e) he, rfl⟩
  | _ => trivial

def contract (id : String) : Contract id where
  State := Memory
  serves m op a m' := m.Serves id op a m'
  view := view id
  fits := serves_fits
  steady := serves_steady
  elsewhere := serves_elsewhere
  find_ok h := Except.ok.inj h.1
  find_error h := nomatch h.1
  swap_ok {m version status t m'} h := by
    cases swaps_of_eq h with
    | written he hv hat =>
        have hat' := (hat id).trans (if_pos rfl)
        exact ⟨rewritten_write he hat', find_of_stored hat', _, find_of_stored he, hv, rfl⟩
  swap_error {m version status e m'} h := by
    cases swaps_of_eq h with
    | absent | stale | illegal => rfl
  swap_conflict {m version status i m'} h r hr := by
    cases swaps_of_eq h with
    | stale he hv =>
        obtain ⟨f, hf, rfl⟩ := find_eq hr
        cases he.symm.trans hf
        exact hv
  swap_illegal {m version status i p q m'} h := by
    cases swaps_of_eq h with
    | illegal he hv hl => exact ⟨_, find_of_stored he, hv, hl⟩

def holding (r : Record) (version : Nat) : Memory := ⟨[⟨r, version⟩]⟩

variable {id : String} {r : Record} {n k : Nat} {status : Status}

theorem stored_holding : (holding r n).stored? r.id = some ⟨r, n⟩ := by simp [stored?, holding]

theorem current_holding : (contract r.id).current (holding r n) = some ⟨r, toString n⟩ :=
  find_of_stored stored_holding

theorem holding_find : (contract id).serves (holding r n) (.find r.id) (.ok (some ⟨r, toString n⟩)) (holding r n) :=
  ⟨congrArg Except.ok (find_of_stored stored_holding).symm, rfl⟩

theorem holding_now (now : Instant) : (contract id).serves (holding r n) .now now (holding r n) := rfl

theorem holding_exchange {i : String} {repository : Repository} (a : Except ExchangeError Grant) :
    (contract id).serves (holding r n) (.exchange i repository) a (holding r n) := rfl

theorem holding_provision {q : Record} (a : Except ProvisionError SandboxRef) :
    (contract id).serves (holding r n) (.provision q) a (holding r n) := rfl

theorem holding_poll {sandbox : SandboxRef} (a : Except ProvisionError Sandbox.State) :
    (contract id).serves (holding r n) (.poll sandbox) a (holding r n) := rfl

theorem holding_deleteClaim {sandbox : SandboxRef} (a : Except ProvisionError Sandbox.Deletion) :
    (contract id).serves (holding r n) (.deleteClaim sandbox) a (holding r n) := rfl

theorem holding_send {place : Nat} {channel : String} {event : Callback.Event} (a : Except Callback.Error Unit) :
    (contract id).serves (holding r n) (.send place channel event) a (holding r n) := rfl

theorem holding_assign {address i api : String} (a : Except Assignment.Error Assignment.Acceptance) :
    (contract id).serves (holding r n) (.assign address i api) a (holding r n) := rfl

theorem holding_swap (h : r.status.mayBecome status) :
    (contract id).serves (holding r n) (.swap r.id (toString n) status) (.ok ⟨{ r with status }, toString (n + 1)⟩)
      (holding { r with status } (n + 1)) := by
  simp [contract, Serves, swap, stored?, holding, h, Entry.write, Entry.versioned]

theorem stores (id : String) (instant : Instant) : Stores (contract id).serves instant holding :=
  ⟨fun _ _ => holding_find, fun _ _ => holding_now instant, fun _ _ _ h => holding_swap h⟩

theorem holding_touch : (contract id).serves (holding r n) (.swap r.id (toString n) r.status)
    (.ok ⟨r, toString (n + 1)⟩) (holding r (n + 1)) :=
  holding_swap (by simp [Status.mayBecome])

theorem holding_conflict (h : k ≠ n) :
    (contract id).serves (holding r n) (.swap r.id (toString k) status) (.error (.conflict r.id)) (holding r n) := by
  have hne : n.repr ≠ k.repr := fun he => h (Text.toString_inj he).symm
  simp [contract, Serves, swap, stored_holding, hne]

def sample : Record := ⟨"task", none, ⟨"", none, none, ⟨"", ""⟩, none, none⟩, .initial, default⟩

end SandboxTasks.Store.Memory
