import SandboxTasks.Proofs.Store.Memory
import SandboxTasks.Simulation.World
import SandboxTasks.Store.Modify

namespace SandboxTasks

def Operation.answerInNewWorld (op : Operation) : op.Answer := (Simulation.World.answerQuietly op (.new default)).1

def Record.changed (r : Record) (change : Change) (now : Instant) : Record :=
  { r with status := (change now r).getD r.status }

namespace Store.Memory

/-- The answers of a store at one instant to its only client. Requests that concern neither the clock nor the store are
answered by others. -/
def answer (now : Instant) (others : (op : Operation) → op.Answer) : (op : Operation) → Memory → op.Answer × Memory
  | .now, m => (now, m)
  | .find id, m => (.ok (m.find id), m)
  | .list, m => (.ok m.list, m)
  | .create id spec, m => m.create id spec (TaskId.ofEntropy (others .entropy)) now
  | .swap id version status, m => m.swap id version status
  | .erase id, m => (.ok (m.erase id).1, (m.erase id).2)
  | op, m => (others op, m)

def record? (m : Memory) (id : String) : Option Record := (m.stored? id).map (·.record)

variable {m : Memory} {id : String} {change : Change}

theorem record?_eq {r : Record} : m.record? id = some r ↔ ∃ version, m.stored? id = some ⟨r, version⟩ := by
  simp only [record?, Option.map_eq_some_iff]
  constructor
  · rintro ⟨⟨_, version⟩, he, rfl⟩
    exact ⟨version, he⟩
  · rintro ⟨version, he⟩
    exact ⟨_, he, rfl⟩

theorem run_modify_absent (now : Instant) (others : (op : Operation) → op.Answer) (h : m.record? id = none) :
    (Store.modify id change).run (answer now others) m = (.error (.notFound id), m) := by
  have hfind : answer now others (.find id) m = (.ok none, m) := by
    rw [answer, find, Option.map_eq_none_iff.mp h, Option.map_none]
  rw [Store.modify, Store.rounds, Store.modifyWithin, Program.run_bind, run_ask (.find id), hfind]
  rfl

theorem run_modify (now : Instant) (others : (op : Operation) → op.Answer) {r : Record} (hr : m.record? id = some r)
    (hlegal : ∀ next, change now r = some next → r.status.mayBecome next) :
    ∃ t m', (Store.modify id change).run (answer now others) m =
        (.ok (if (change now r).isSome then .applied t else .unchanged t), m') ∧
      t.record = r.changed change now ∧ m'.record? id = some (r.changed change now) := by
  obtain ⟨version, he⟩ := record?_eq.mp hr
  have hfind : answer now others (.find id) m = (.ok (some ⟨r, toString version⟩), m) := by
    rw [answer, find_of_stored he, Entry.versioned]
  rw [Store.modify, Store.rounds, Store.modifyWithin, Program.run_bind, run_ask (.find id), hfind]
  dsimp only
  rw [Program.run_bind, run_ask .now]
  dsimp only [answer]
  cases hnext : change now r with
  | none => exact ⟨⟨r, toString version⟩, m, rfl, by simp [Record.changed, hnext], by simp [Record.changed, hnext, hr]⟩
  | some next =>
      dsimp only
      rw [Program.run_bind, run_ask (.swap ..)]
      dsimp only [answer]
      generalize hswap : m.swap id (toString version) next = swapped
      obtain ⟨swapped, m'⟩ := swapped
      cases swaps_of_eq hswap with
      | absent h => cases h.symm.trans he
      | stale h hv =>
          cases h.symm.trans he
          exact absurd rfl hv
      | illegal h _ hl =>
          cases h.symm.trans he
          exact absurd (hlegal next hnext) (by simp [hl])
      | written h _ hat =>
          cases h.symm.trans he
          refine ⟨_, m', rfl, ?_, ?_⟩
          · simp [Entry.write, Entry.versioned, Record.changed, hnext]
          · simp [record?, hat id, Entry.write, Record.changed, hnext]

end Store.Memory

end SandboxTasks
