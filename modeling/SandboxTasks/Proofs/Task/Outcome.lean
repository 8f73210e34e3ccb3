import SandboxTasks.Proofs.Concurrent.Run
import SandboxTasks.Proofs.Store.Memory
import SandboxTasks.Proofs.Task.Change

namespace SandboxTasks

open Store

theorem Phase.eq_or_precedes_of_rank_le {p q : Phase} (hp : p.isTerminal = false) (h : p.rank ≤ q.rank) :
    q = p ∨ p.precedes q := by
  revert h
  cases p <;> first | exact absurd hp (by decide) | (cases q <;> decide)

namespace Status

variable {s next : Status} {now : Instant}

/-- What is told of a task that has ended is the same. -/
structure SameEnd (s next : Status) : Prop where
  phase : next.phase = s.phase
  reason : next.reason = s.reason
  message : next.message = s.message
  completedAt : next.completedAt = s.completedAt
  pullRequest : next.pullRequest = s.pullRequest

theorem SameEnd.trans {last : Status} (h : s.SameEnd next) (h' : next.SameEnd last) : s.SameEnd last :=
  ⟨h'.phase.trans h.phase, h'.reason.trans h.reason, h'.message.trans h.message, h'.completedAt.trans h.completedAt,
    h'.pullRequest.trans h.pullRequest⟩

/-- A status that may come later: no phase before, and once the task has ended, the same end. -/
structure Follows (next s : Status) : Prop where
  rank : s.phase.rank ≤ next.phase.rank
  ended : s.phase.isTerminal → s.SameEnd next

theorem SameEnd.follows (h : s.SameEnd next) : next.Follows s := ⟨h.phase ▸ le_rfl, fun _ => h⟩

theorem Follows.refl (s : Status) : s.Follows s := SameEnd.follows ⟨rfl, rfl, rfl, rfl, rfl⟩

theorem Follows.trans {last : Status} (h : next.Follows s) (h' : last.Follows next) : last.Follows s where
  rank := h.rank.trans h'.rank
  ended hs := (h.ended hs).trans (h'.ended ((h.ended hs).phase ▸ hs))

theorem follows_of_running (hs : s.phase.isTerminal = false) (h : s.phase.rank ≤ next.phase.rank) : next.Follows s :=
  ⟨h, fun hended => absurd (hs.symm.trans hended) (by decide)⟩

theorem Follows.mayBecome (h : next.Follows s) : s.mayBecome next := by
  unfold Status.mayBecome
  cases hs : s.phase.isTerminal with
  | true => simp [(h.ended hs).phase, (h.ended hs).reason]
  | false => simpa using Phase.eq_or_precedes_of_rank_le hs h.rank

theorem sameEnd_setCondition (kind holds reason message) :
    s.SameEnd (s.setCondition now kind holds reason message) := ⟨rfl, rfl, rfl, rfl, rfl⟩

theorem sameEnd_removeCondition (kind) : s.SameEnd (s.removeCondition kind) := ⟨rfl, rfl, rfl, rfl, rfl⟩

theorem follows_of_terminate {reason : EndReason} {message : Option String}
    (h : s.terminate? now reason message = some next) : next.Follows s := by
  unfold terminate? at h
  split at h
  · cases h
  · next hs =>
      cases h
      have hend : reason.phase.rank = 5 := Phase.isTerminal_iff_rank.mp (EndReason.isTerminal_phase reason)
      refine follows_of_running (by simpa using hs) ?_
      simp only [hend]
      cases s.phase <;> decide

end Status

namespace Change

variable {now : Instant} {r : Record} {next : Status}

theorem rank_le_noteWorker (s : Status) : s.phase.rank ≤ (noteWorker now s).phase.rank := by
  unfold noteWorker
  split
  · next h => rcases h with h | h <;> simp [h, Phase.rank]
  · exact le_rfl

theorem rank_le_reported (report : Report) (s : Status) : s.phase.rank ≤ (reported report now s).phase.rank := by
  have hend (reason : EndReason) (message : Option String) :
      s.phase.rank ≤ ((s.terminate? now reason message).getD s).phase.rank := by
    cases h : s.terminate? now reason message with
    | none => exact le_rfl
    | some next => exact (Status.follows_of_terminate h).rank
  unfold reported
  split
  · exact rank_le_noteWorker s
  · exact rank_le_noteWorker s
  · exact hend _ _
  · exact hend _ _

theorem report_follows {report : Report} (h : Change.report report now r = some next) : next.Follows r.status := by
  obtain ⟨hs, rfl⟩ := report_eq h
  exact Status.follows_of_running hs (rank_le_reported report r.status)

theorem reserveCredential_follows (h : reserveCredential now r = some next) : next.Follows r.status := by
  obtain ⟨-, hnext⟩ := Option.ite_none_left_eq_some.mp h
  cases hnext
  exact (Status.sameEnd_setCondition ..).follows

theorem releaseCredential_follows (h : releaseCredential now r = some next) : next.Follows r.status := by
  obtain ⟨-, hnext⟩ := Option.ite_none_right_eq_some.mp h
  cases hnext
  exact (Status.sameEnd_removeCondition _).follows

theorem OfPass.follows {change : Change} (hpass : change.OfPass) (h : change now r = some next) :
    next.Follows r.status := by
  cases hpass with
  | finish reason message => exact Status.follows_of_terminate h
  | sandboxDeleted reason | notified delivered reason message =>
      obtain ⟨-, hnext⟩ := Option.ite_none_left_eq_some.mp h
      cases hnext
      exact (Status.sameEnd_setCondition ..).follows
  | recordSandbox sandbox | forgetSandbox | assignmentFailed message counted =>
      obtain ⟨-, hnext⟩ := Option.ite_none_right_eq_some.mp h
      cases hnext
      exact Status.SameEnd.follows ⟨rfl, rfl, rfl, rfl, rfl⟩
  | startProvisioning | markReady address | startAssigning =>
      obtain ⟨hphase, hnext⟩ := Option.ite_none_right_eq_some.mp h
      cases hnext
      refine Status.follows_of_running (hphase ▸ rfl) ?_
      simp [hphase, Phase.rank, Status.setCondition]
  | assigned =>
      obtain ⟨hphase, hnext⟩ := Option.ite_none_right_eq_some.mp h
      cases hnext
      refine Status.follows_of_running ?_ (rank_le_noteWorker r.status)
      rcases hphase with hphase | hphase <;> exact hphase ▸ rfl

end Change

theorem Job.Makes.follows {j : Job} {writes : Nat} {change : Change} {now : Instant} {r : Record} {next : Status}
    (hmakes : j.Makes writes change) (h : change now r = some next) : next.Follows r.status := by
  cases hmakes with
  | report report => exact Change.report_follows h
  | cancel => exact Status.follows_of_terminate h
  | reserve => exact Change.reserveCredential_follows h
  | giveBack | release => exact Change.releaseCredential_follows h
  | pass _ _ _ hpass => exact hpass.follows h

/-- Clients that may delete the task, and leave it alone otherwise. -/
def Spares (before after : Option Versioned) : Prop := after = before ∨ after = none

def Follows (after before : Option Versioned) : Prop :=
  ∀ q, after = some q → ∃ r, before = some r ∧ q.record.status.Follows r.record.status

theorem Follows.trans {first second third : Option Versioned} (h : Follows second first) (h' : Follows third second) :
    Follows third first := by
  intro q hq
  obtain ⟨r, hr, hqr⟩ := h' q hq
  obtain ⟨t, ht, hrt⟩ := h r hr
  exact ⟨t, ht, hrt.trans hqr⟩

variable {id : String} {C : Contract id} {others : Option Versioned → Option Versioned → Prop} {c d : Pool C}

theorem Step.follows (h : Step C Spares c d) (hc : c.Sound) : Follows (C.current d.state) (C.current c.state) := by
  rcases h.task hc with hsame | ⟨j, writes, change, now, r, next, t, hmakes, hchange, hbefore, hafter, hrecord⟩ | hother
  · exact fun q hq => ⟨q, hsame ▸ hq, .refl _⟩
  · intro q hq
    cases hafter.symm.trans hq
    exact ⟨r, hbefore, hrecord ▸ hmakes.follows hchange⟩
  · rcases hother with hsame | hgone
    · exact fun q hq => ⟨q, hsame ▸ hq, .refl _⟩
    · exact fun q hq => nomatch hgone.symm.trans hq

theorem run_follows (h : Run C Spares c d) (hc : c.Sound) : Follows (C.current d.state) (C.current c.state) := by
  induction h with
  | refl => exact fun q hq => ⟨q, hq, .refl _⟩
  | tail hrun hs ih => exact ih.trans (hs.follows (run_sound hrun hc))

/-- The store refused to write what does not follow. -/
def Turn.Refused (turn : Turn) : Prop :=
  ∃ i version status j p q, turn = ⟨.swap i version status, .error (.illegalTransition j p q)⟩

def Thread.Unrefused (t : Thread) : Prop := ∀ turn ∈ t.past, ¬ turn.Refused

theorem not_refused {s s' : C.State} {j : Job} {past : History} {op : Operation} {a : op.Answer}
    (hknows : ∀ r, past.lastSeen? = some r → C.Knows s r) (hmay : j.May id past op) (h : C.serves s op a s') :
    ¬ Turn.Refused ⟨op, a⟩ := by
  rintro ⟨i, version, status, i', p, q, hturn⟩
  cases hturn
  obtain ⟨rfl, seen, now, change, hseen, rfl, hmakes, hchange, -⟩ := hmay
  obtain ⟨r, hr, hversion, hrefused⟩ := C.swap_illegal h
  cases (hknows seen hseen).eq_of_version hr hversion
  exact absurd ((hmakes.follows hchange).mayBecome.symm.trans hrefused) (by decide)

theorem Moves.unrefused {s s' : C.State} {t : Thread} {ts : List Thread} (h : Moves C s t s' ts) (ht : t.Sound C s)
    (hw : t.Unrefused) : ∀ u ∈ ts, u.Unrefused := by
  have hleaves (j : Job) (op : Operation) : ∀ u ∈ j.leaves id op, u.Unrefused :=
    fun u hu turn hturn => by rw [Job.past_of_leaves hu] at hturn; cases hturn
  cases h with
  | drop => exact List.forall_mem_cons.mpr ⟨hw, hleaves _ _⟩
  | answer hs =>
      have hnew := not_refused ht.knows (ht.conforms _ rfl).1 hs
      exact List.forall_mem_singleton.mpr (List.forall_mem_cons.mpr ⟨hnew, hw⟩)
  | lose hs =>
      have hnew := not_refused ht.knows (ht.conforms _ rfl).1 hs
      exact List.forall_mem_cons.mpr ⟨List.forall_mem_cons.mpr ⟨hnew, hw⟩, hleaves _ _⟩

theorem run_unrefused (h : Run C others c d) (hc : ∀ t ∈ c.threads, t.Sound C c.state ∧ t.Unrefused) :
    ∀ t ∈ d.threads, t.Sound C d.state ∧ t.Unrefused := by
  induction h with
  | refl => exact hc
  | tail _ hs ih =>
      refine hs.forall_threads (P := fun s t => t.Sound C s ∧ t.Unrefused) ?_ ?_ ?_ ih
      · exact fun s j hj => ⟨Thread.sound_asked hj, fun turn hturn => nomatch hturn⟩
      · exact fun s s' op a t hs ht => ⟨ht.1.carry hs, ht.2⟩
      · exact fun s s' t ts hm ht u hu => ⟨hm.sound ht.1 u hu, hm.unrefused ht.1 ht.2 u hu⟩

/-- Reports, cancels, credential requests and passes in any order, dropped wherever they are: the phase only moves
forward, the end of a task is told once and for all, and no write is ever refused. -/
theorem outcome_kept {s : C.State} (hc : Run C Spares ⟨s, []⟩ c) (hd : Run C Spares c d) :
    (∀ r q, C.current c.state = some r → C.current d.state = some q →
      r.record.status.phase.rank ≤ q.record.status.phase.rank ∧
      (r.record.status.phase.isTerminal → r.record.status.SameEnd q.record.status)) ∧
    ∀ t ∈ d.threads, ∀ turn ∈ t.past, ¬ turn.Refused := by
  have hsound := run_sound hc (sound_idle s)
  refine ⟨fun r q hr hq => ?_, fun t ht => (run_unrefused (hc.trans hd) (fun _ ht => nomatch ht) t ht).2⟩
  obtain ⟨r', hr', hfollows⟩ := run_follows hd hsound q hq
  cases hr.symm.trans hr'
  exact ⟨hfollows.rank, hfollows.ended⟩

/-- A task is canceled while a report that it is completed is on its way. -/
theorem outcome_kept_canceled : ∃ (c d : Pool (Memory.contract "task")) (r q : Versioned),
    Run _ Spares ⟨Memory.holding Memory.sample 1, []⟩ c ∧ Run _ Spares c d ∧ Contract.current _ c.state = some r ∧
    r.record.status.reason = some .canceled ∧ Contract.current _ d.state = some q ∧
    r.record.status.SameEnd q.record.status := by
  suffices h : ∃ (c d : Pool (Memory.contract "task")) (r q : Versioned),
      Run _ Spares ⟨Memory.holding Memory.sample 1, []⟩ c ∧ Run _ Spares c d ∧ Contract.current _ c.state = some r ∧
      r.record.status.reason = some .canceled ∧ Contract.current _ d.state = some q ∧
      r.record.status.phase.isTerminal by
    obtain ⟨c, d, r, q, hc, hd, hr, hreason, hq, hended⟩ := h
    exact ⟨c, d, r, q, hc, hd, hr, hreason, hq, ((outcome_kept hc hd).1 r q hr hq).2 hended⟩
  have hstores := Memory.stores "task" default
  exact ⟨_, _, _, _, .start (.report ⟨.completed, none, none⟩) rfl <|
    .answers [] (.read hstores rfl .refl) <| .start .cancel rfl <|
    .answers [] (.round hstores rfl rfl rfl .refl) .refl,
    .answers [_] (.head (Memory.holding_conflict (by decide)) <| .read hstores rfl .refl) .refl,
    Memory.current_holding, rfl, Memory.current_holding, rfl⟩

end SandboxTasks
