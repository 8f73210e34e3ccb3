import SandboxTasks.Proofs.Concurrent.Serial
import SandboxTasks.Proofs.Task.Phase

namespace SandboxTasks

open Store

/-- The turn ended the task because its assignment had failed, though the task was seen running by then. -/
def Turn.overrides (past : History) : Turn → Bool
  | ⟨.swap _ _ next, .ok _⟩ => next.reason == some .assignmentFailure &&
      past.outside.head?.any (·.isFailedAssignment) && past.lastSeen?.any (·.record.status.phase == .running)
  | _ => false

def History.overrides : History → Nat
  | [] => 0
  | turn :: past => overrides past + (turn.overrides past).toNat

/-- The task was taken by its worker and has ended because its assignment failed. -/
def Status.Overridden (s : Status) : Prop := s.reason = some .assignmentFailure ∧ s.assignedAt.isSome

variable {id : String} {C : Contract id} {c d : Pool C}

def Pool.overrides (c : Pool C) : Nat := c.total fun _ past => past.overrides

/-- A task that has not ended is open, and one is overridden if it was ended so. -/
structure Pool.Judged (c : Pool C) (q : Record) : Prop where
  opened : q.status.phase.isTerminal = false → q.status.Open
  overridden : q.status.Overridden ↔ 0 < c.overrides

theorem Turn.overrides_eq_false {turn : Turn} {past : History} (h : turn.wrote = false) :
    turn.overrides past = false := by
  obtain ⟨op, answer⟩ := turn
  cases op with
  | swap => cases answer with
    | ok t => cases h
    | error e => rfl
  | _ => rfl

theorem Status.Open.not_overridden {s : Status} (h : s.Open) : ¬ s.Overridden := by
  rintro ⟨hreason, -⟩
  rw [h.reason] at hreason
  cases hreason

theorem Turn.overrides_iff {past : History} {r q : Versioned} {i v : String} {next : Status}
    (hseen : past.lastSeen? = some r) : Turn.overrides past ⟨.swap i v next, .ok q⟩ ↔
      next.reason = some .assignmentFailure ∧ past.outside.head?.any (·.isFailedAssignment) ∧
        r.record.status.phase = .running := by
  simp [Turn.overrides, hseen, and_assoc]

/-- What a write makes of a task that is open, or of one that has ended: it overrides the worker, or changes nothing. -/
theorem Status.Takes.overridden_iff {next : Status} {past : History} {r q : Versioned} {i v : String} {turn : Turn}
    (h : r.record.status.Takes past.outside next) (hseen : past.lastSeen? = some r)
    (hopen : r.record.status.phase.isTerminal = false → r.record.status.Open)
    (hturn : turn = ⟨.swap i v next, .ok q⟩) :
    next.Overridden ↔ r.record.status.Overridden ∨ turn.overrides past := by
  rw [hturn, Turn.overrides_iff hseen]
  cases h with
  | stays hphase hreason hassigned =>
      have hsame : next.Overridden ↔ r.record.status.Overridden := by
        unfold Overridden
        rw [hreason, hassigned]
      rw [hsame, or_iff_left]
      rintro ⟨hnext, -, hrunning⟩
      rw [hreason, (hopen (by rw [hrunning]; rfl)).reason] at hnext
      cases hnext
  | moves hs _ hnext =>
      have hopen := hopen hs
      refine iff_of_false (hnext hopen).not_overridden ?_
      rintro (hbefore | ⟨hreason, -⟩)
      · exact hopen.not_overridden hbefore
      · rw [(hnext hopen).reason] at hreason
        cases hreason
  | ends hs reason hphase hreason hassigned _ hcause =>
      have hopen := hopen hs
      rw [or_iff_right hopen.not_overridden, Overridden, hreason, hassigned, hopen.assigned, beq_iff_eq]
      constructor
      · rintro ⟨he, hrunning⟩
        exact ⟨he, hcause (Option.some.inj he), hrunning⟩
      · rintro ⟨he, -, hrunning⟩
        exact ⟨he, hrunning⟩

theorem Step.judged (h : Step C Spares c d) (hsound : c.Sound)
    (hrule : ∀ t ∈ c.threads, t.KeepsRule C (fun _ => False) c.state)
    (hc : ∀ q, C.current c.state = some q → c.Judged q.record) :
    ∀ q, C.current d.state = some q → d.Judged q.record := by
  intro q hq
  obtain ⟨htotal, hstate⟩ | ⟨t, ht, op, a, hwaits, hs, htotal⟩ :=
    h.total (f := fun _ past => past.overrides) fun _ => rfl
  · have hsame : C.current c.state = some q := by
      obtain hstate | hsame | hgone := hstate
      · exact hstate ▸ hq
      · exact hsame ▸ hq
      · cases hq.symm.trans hgone
    have hjudged := hc q hsame
    exact ⟨hjudged.opened, hjudged.overridden.trans (by rw [Pool.overrides, Pool.overrides, htotal])⟩
  · change d.overrides + t.past.overrides = c.overrides + (t.past.overrides + (Turn.overrides t.past ⟨op, a⟩).toNat)
      at htotal
    cases (hrule t ht).groundedEffect (hsound t ht) hwaits hs with
    | quiet hview hwrote =>
        rw [Turn.overrides_eq_false hwrote] at htotal
        have hjudged := hc q (by rw [← hq, Contract.current, Contract.current, hview])
        exact ⟨hjudged.opened, hjudged.overridden.trans (by simp at htotal; omega)⟩
    | @wrote r q' change now next hbefore hseen hgrounds hchange hafter hrecord hturn =>
        cases hafter.symm.trans hq
        have hjudged := hc r hbefore
        have htakes := hgrounds.takes hchange
        have hstatus : q.record.status = next := by rw [hrecord]
        refine ⟨hstatus ▸ htakes.opened hjudged.opened, ?_⟩
        rw [hstatus, htakes.overridden_iff hseen hjudged.opened hturn, hjudged.overridden]
        cases hoverrides : Turn.overrides t.past ⟨op, a⟩ with
        | false | true =>
            rw [hoverrides] at htotal
            simp at htotal ⊢
            omega

theorem run_judged (h : Run C Spares c d) (hsound : c.Sound)
    (hrule : ∀ t ∈ c.threads, t.KeepsRule C (fun _ => False) c.state)
    (hc : ∀ q, C.current c.state = some q → c.Judged q.record) :
    ∀ q, C.current d.state = some q → d.Judged q.record := by
  induction h with
  | refl => exact hc
  | tail hrun hs ih => exact hs.judged (run_sound hrun hsound) (run_keepsRule hrun hsound hrule) ih

/-- Of a new task, whatever jobs do to it: it has failed for its assignment after its worker took it if and only if some
client whose assignment failed last ended it although it had seen it running. -/
theorem overridden_iff_overrides {s : C.State} (hrun : Run C Spares ⟨s, []⟩ c)
    (hnew : ∀ r, C.current s = some r → r.record.status = .initial) {q : Versioned} (hq : C.current c.state = some q) :
    q.record.status.reason = some .assignmentFailure ∧ q.record.status.assignedAt.isSome ↔
      ∃ t ∈ c.threads, 0 < t.past.overrides := by
  have hjudged := run_judged hrun (sound_idle s) (fun _ ht => nomatch ht) (fun r hr => ?_) q hq
  · exact hjudged.overridden.trans Pool.total_pos
  · have hstatus := hnew r hr
    refine ⟨fun _ => ?_, ?_⟩
    · rw [hstatus]
      exact ⟨rfl, rfl⟩
    · rw [Status.Overridden, hstatus]
      exact iff_of_false (fun h => nomatch h.1) (Nat.lt_irrefl 0)

theorem run_overridden : ∃ (c : Pool (Memory.contract "task")) (q : Versioned),
    OrderlyRun _ (fun s s' => s' = s) ⟨Memory.holding Memory.sample 1, []⟩ c ∧ Contract.current _ c.state = some q ∧
    q.record.status.reason = some .assignmentFailure ∧ q.record.status.assignedAt.isSome := by
  have hstores := Memory.stores "task" default
  exact ⟨_, _, .start (.pass onceTried .off) rfl (fun _ => rfl) <|
    .answers [] (.read hstores rfl <| .round hstores rfl rfl rfl <| .head (Memory.holding_now default) <|
      .head (Memory.holding_provision (.ok ⟨"sbx-task", none⟩)) <| .round hstores rfl rfl rfl <|
      .head (Memory.holding_now default) .refl) <| .start (.pass onceTried .off) rfl (fun _ => rfl) <|
    .answers [] (.read hstores rfl <| .head (Memory.holding_now default) <|
      .head (Memory.holding_poll (.ok (.ready "worker"))) <| .round hstores rfl rfl rfl <|
      .head (Memory.holding_poll (.ok (.ready "worker"))) <| .round hstores rfl rfl rfl .refl) <|
    .start (.report ⟨.started, none, none⟩) rfl (fun h => nomatch h) <|
    .answers [] (.round hstores rfl rfl rfl .refl) <|
    .answers [_] (.head (Memory.holding_assign (.error (.unexpected 504 "gateway timeout"))) <|
      .head (Memory.holding_now default) <| .round hstores rfl rfl rfl .refl) .refl, Memory.current_holding, rfl, rfl⟩

theorem overridden_iff_overrides_late : ∃ (c : Pool (Memory.contract "task")) (q : Versioned),
    Run _ Spares ⟨Memory.holding Memory.sample 1, []⟩ c ∧ Contract.current _ c.state = some q ∧
    (q.record.status.reason = some .assignmentFailure ∧ q.record.status.assignedAt.isSome) ∧
    ∃ t ∈ c.threads, 0 < t.past.overrides := by
  obtain ⟨c, q, hrun, hq, hended⟩ := run_overridden
  have hrun := hrun.run fun s s' h => .inl (by rw [h])
  refine ⟨c, q, hrun, hq, hended, (overridden_iff_overrides hrun (fun r hr => ?_) hq).mp hended⟩
  cases Memory.current_holding.symm.trans hr
  rfl

/-- That passes take turns does not keep a task which its worker has taken from being failed for its assignment. -/
theorem failed_at_work : ¬ ∀ (c : Pool (Memory.contract "task")) (q : Versioned),
    OrderlyRun _ (fun s s' => s' = s) ⟨Memory.holding Memory.sample 1, []⟩ c → Contract.current _ c.state = some q →
    q.record.status.reason = some .assignmentFailure → q.record.status.assignedAt = none := by
  intro hnever
  obtain ⟨c, q, hrun, hq, hreason, hassigned⟩ := run_overridden
  have hnone := hnever c q hrun hq hreason
  rw [hnone] at hassigned
  cases hassigned

end SandboxTasks
