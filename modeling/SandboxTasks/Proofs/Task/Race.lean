import SandboxTasks.Proofs.Concurrent.Among
import SandboxTasks.Proofs.Task.Outcome

namespace SandboxTasks

open Store

theorem lasts_ended : Lasts (·.phase.isTerminal) := fun _ _ h hr => h.isTerminal hr

variable {id : String} {C : Contract id} {c d : Pool C}

namespace Thread

/-- The thread wrote the end of the task. -/
def won (t : Thread) : Bool := 0 < t.past.turned (·.phase.isTerminal)

/-- The thread was to end the task, and doing so has not failed at the store. -/
inductive Attempted : Thread → Prop
  | reported {report past phase changed} (h : report.kind.isTerminal) :
      Attempted ⟨.report report, past, .running (.done (.ok (.accepted phase changed)))⟩
  | late {report past phase} : Attempted ⟨.report report, past, .running (.done (.ok (.alreadyTerminal phase)))⟩
  | canceled {past phase} : Attempted ⟨.cancel, past, .running (.done (.ok (some phase)))⟩
  | cleaned {policy notifier past} : Attempted ⟨.pass policy notifier, past, .running (.done (.ok .done))⟩
  | halted {policy notifier past e sandbox answer rest} (h : past.outside = ⟨.deleteClaim sandbox, answer⟩ :: rest) :
      Attempted ⟨.pass policy notifier, past, .running (.done (.error (.provision e)))⟩
  | cleaning {policy notifier past sandbox next} :
      Attempted ⟨.pass policy notifier, past, .running (.call (.deleteClaim sandbox) next)⟩

inductive Claims : Thread → Prop
  | applied {report past phase} (h : report.kind.isTerminal) :
      Claims ⟨.report report, past, .running (.done (.ok (.accepted phase true)))⟩

inductive Tells : Thread → Phase → Prop
  | accepted {report past phase changed} :
      Tells ⟨.report report, past, .running (.done (.ok (.accepted phase changed)))⟩ phase
  | late {report past phase} : Tells ⟨.report report, past, .running (.done (.ok (.alreadyTerminal phase)))⟩ phase
  | canceled {past phase} : Tells ⟨.cancel, past, .running (.done (.ok (some phase)))⟩ phase

inductive Misses : Thread → Prop
  | report {report past} : Misses ⟨.report report, past, .running (.done (.ok .unknownTask))⟩
  | cancel {past} : Misses ⟨.cancel, past, .running (.done (.ok none))⟩

variable {s : C.State} {t : Thread} {alone : Job → Prop}

theorem KeepsRule.of_attempted (h : t.KeepsRule C alone s) (hattempted : t.Attempted) :
    ∀ q, C.current s = some q → q.record.status.phase.isTerminal := by
  intro q hq
  cases hattempted with
  | reported hkind =>
      obtain ⟨r, hr, rfl, hended⟩ := h.closes
      exact (hr.becomes q hq).isTerminal (hended hkind).1
  | late | canceled =>
      obtain ⟨r, hr, rfl, hended⟩ := h.closes
      exact (hr.becomes q hq).isTerminal hended
  | cleaned =>
      obtain ⟨-, hgone⟩ | ⟨r, hr, hended, -⟩ := h.closes
      · cases hq.symm.trans hgone
      · exact (hr.becomes q hq).isTerminal hended
  | halted hdeletion =>
      obtain ⟨-, ⟨-, -, -, r, hr, hended⟩ | ⟨-, sandbox, rest, hpoll⟩⟩ := h.closes
      · exact (hr.becomes q hq).isTerminal hended
      · cases hdeletion.symm.trans hpoll
  | @cleaning _ _ _ sandbox next =>
      obtain ⟨-, -, -, -, r, hr, hended, -⟩ := h.passCalls ⟨next, rfl⟩ not_false
      exact (hr.becomes q hq).isTerminal hended

theorem KeepsRule.won_of_claims (h : t.KeepsRule C alone s) (hclaims : t.Claims) : t.won := by
  cases hclaims with
  | applied hkind =>
      obtain ⟨r, -, -, hended⟩ := h.closes
      exact decide_eq_true ((hended hkind).2 rfl)

theorem KeepsRule.of_tells {phase : Phase} (h : t.KeepsRule C alone s) (htells : t.Tells phase)
    (hphase : phase.isTerminal) : ∀ q, C.current s = some q → q.record.status.phase = phase := by
  intro q hq
  cases htells with
  | accepted | late | canceled =>
      obtain ⟨r, hr, rfl, -⟩ := h.closes
      exact ((hr.becomes q hq).ended hphase).phase

theorem KeepsRule.of_misses (h : t.KeepsRule C alone s) (hmisses : t.Misses) (hreliable : C.Reliable) :
    C.current s = none := by
  cases hmisses with
  | report | cancel => exact h.closes hreliable

end Thread

/-- Reports, cancels, passes and credential requests in any order, dropped wherever they are. At most one of them has
ended the task, and no other claims to. Once one that was to end it is answered, or goes on to clean up, it has ended,
and the phase that was answered is its phase from then on. -/
theorem race_decided {s : C.State} (hc : Run C Spares ⟨s, []⟩ c) (hd : Run C Spares c d) :
    c.threads.countP (·.won) ≤ 1 ∧ ∀ t ∈ c.threads,
      (t.Claims → t.won) ∧
      (t.Attempted → ∀ q, C.current d.state = some q → q.record.status.phase.isTerminal) ∧
      (∀ phase, t.Tells phase → phase.isTerminal → ∀ q, C.current d.state = some q → q.record.status.phase = phase) ∧
      (t.Misses → C.Reliable → C.current d.state = none) := by
  have hsound := run_sound hc (sound_idle s)
  have hlater := run_meanwhile hd hsound
  have hrule := run_keepsRule hc (sound_idle s) fun _ ht => nomatch ht
  have honce := (run_turnedOnce lasts_ended hc (sound_idle s) (turnedOnce_idle s)).once
  refine ⟨(Pool.countP_le_total _ c).trans honce, fun t ht => ?_⟩
  have h := hrule t ht
  refine ⟨h.won_of_claims, fun hattempted q hq => ?_, fun phase htells hphase q hq => ?_, fun hmisses hreliable => ?_⟩
  · obtain ⟨r, hr, hbecomes⟩ := hlater.becomes q hq
    exact hbecomes.isTerminal (h.of_attempted hattempted r hr)
  · obtain ⟨r, hr, hbecomes⟩ := hlater.becomes q hq
    have hphase' := h.of_tells htells hphase r hr
    rw [(hbecomes.ended (hphase' ▸ hphase)).phase, hphase']
  · exact hlater.gone (h.of_misses hmisses hreliable)

/-- A report that the task is completed is overtaken by a cancel, and a report of progress comes after both. -/
theorem race_decided_canceled : ∃ (c d : Pool (Memory.contract "task")) (t : Thread) (q : Versioned),
    Run _ Spares ⟨Memory.holding Memory.sample 1, []⟩ c ∧ Run _ Spares c d ∧ t ∈ c.threads ∧ t.Attempted ∧
    t.Tells .canceled ∧ ¬ t.won ∧ c.threads.countP (·.won) = 1 ∧ Contract.current _ d.state = some q ∧
    q.record.status.phase = .canceled := by
  suffices h : ∃ (c d : Pool (Memory.contract "task")) (t : Thread) (q : Versioned),
      Run _ Spares ⟨Memory.holding Memory.sample 1, []⟩ c ∧ Run _ Spares c d ∧ t ∈ c.threads ∧ t.Attempted ∧
      t.Tells .canceled ∧ ¬ t.won ∧ 1 ≤ c.threads.countP (·.won) ∧ Contract.current _ d.state = some q by
    obtain ⟨c, d, t, q, hc, hd, ht, hattempted, htells, hlost, hwon, hq⟩ := h
    obtain ⟨honce, hall⟩ := race_decided hc hd
    have hphase := (hall t ht).2.2.1 .canceled htells rfl q hq
    exact ⟨c, d, t, q, hc, hd, ht, hattempted, htells, hlost, le_antisymm honce hwon, hq, hphase⟩
  have hstores := Memory.stores "task" default
  refine ⟨_, _, _, _, .start (.report ⟨.completed, none, none⟩) rfl <|
    .answers [] (.read hstores rfl .refl) <| .start .cancel rfl <|
    .answers [] (.round hstores rfl rfl rfl .refl) <|
    .answers [_] (.head (Memory.holding_conflict (by decide)) <| .read hstores rfl .refl) .refl,
    .start (.report ⟨.progress, none, none⟩) rfl <| .answers [] (.read hstores rfl .refl) .refl,
    .tail _ (.head _), .reported rfl, .accepted, by decide, by decide, Memory.current_holding⟩

end SandboxTasks
