import SandboxTasks.Proofs.Reconcile.Walk
import SandboxTasks.Proofs.Task.Cause

namespace SandboxTasks

open Store Reconcile

def Status.pastAssigning (s : Status) : Bool := decide (Phase.assigning.rank < s.phase.rank)

/-- The assignment failed because nothing listened yet, and that is not held against the task. -/
def Reconcile.Policy.excuses (p : Policy) (now : Instant) (s : Status) (e : Assignment.Error) : Bool :=
  e matches .refused _ && p.forgives now s

theorem Status.SameCourse.excuses {s next : Status} (h : s.SameCourse next) (p : Policy) (now : Instant)
    (e : Assignment.Error) : p.excuses now next e = p.excuses now s e := by
  unfold Policy.excuses Policy.forgives
  rw [h.readyAt, h.provisioningSince]

namespace History

/-- The last thing the client did was to hand the task over, in vain. -/
def Hangs : History → Prop
  | ⟨.assign _ _ _, .error _⟩ :: _ => True
  | _ => False

/-- What the turn before the last holds against the task: an assignment failed, and there is no excuse for that at the
time that was read next. -/
def charge (p : Policy) : History → Nat
  | ⟨.now, now⟩ :: ⟨.assign _ _ _, .error e⟩ :: past =>
    if (lastSeen? past).any (p.excuses now ·.record.status e) then 0 else 1
  | _ :: ⟨.assign _ _ _, .error _⟩ :: _ => 1
  | _ => 0

def charged (p : Policy) : History → Nat
  | [] => 0
  | turn :: past => charged p past + charge p (turn :: past)

variable {p : Policy} {past : History} {turn : Turn}

theorem charge_of_not_hangs (h : ¬ past.Hangs) : charge p (turn :: past) = 0 := by
  unfold charge
  split
  iterate 2
    · next hlast =>
        cases hlast
        exact (h trivial).elim
  · rfl

theorem charged_cons (h : ¬ past.Hangs) : charged p (turn :: past) = past.charged p := by
  rw [charged, charge_of_not_hangs h]
  rfl

end History

namespace Status

variable {s next last : Status}

/-- Phases go on, nothing is counted, and the task is not ended for its assignment. -/
structure Uncounted (s next : Status) : Prop where
  follows : next.Follows s
  attempts : next.attempts = s.attempts
  reason : s.reason ≠ some .assignmentFailure → next.reason ≠ some .assignmentFailure

/-- What reports and cancels may make of a status: they never leave a task that is being assigned as it was. -/
structure Overtaken (s next : Status) : Prop where
  uncounted : s.Uncounted next
  course : s.SameCourse next
  past : Phase.assigning.rank ≤ s.phase.rank → next.pastAssigning

theorem Uncounted.trans (h : s.Uncounted next) (h' : next.Uncounted last) : s.Uncounted last where
  follows := h.follows.trans h'.follows
  attempts := h'.attempts.trans h.attempts
  reason hs := h'.reason (h.reason hs)

theorem rank_le_of_pastAssigning (h : s.pastAssigning) : Phase.assigning.rank ≤ s.phase.rank :=
  (of_decide_eq_true h).le

theorem Overtaken.trans (h : s.Overtaken next) (h' : next.Overtaken last) : s.Overtaken last where
  uncounted := h.uncounted.trans h'.uncounted
  course := h.course.trans h'.course
  past hs := h'.past (rank_le_of_pastAssigning (h.past hs))

theorem Follows.pastAssigning (h : next.Follows s) (hs : s.pastAssigning) : next.pastAssigning :=
  decide_eq_true ((of_decide_eq_true hs).trans_le h.rank)

theorem pastAssigning_of_isTerminal (h : s.phase.isTerminal) : s.pastAssigning := by
  unfold pastAssigning
  rw [Phase.isTerminal_iff_rank.mp h]
  rfl

theorem not_pastAssigning (h : s.phase = .assigning) : s.pastAssigning = false := by
  unfold pastAssigning
  rw [h]
  rfl

theorem pastAssigning_of_ne (h : s.phase ≠ .assigning) (hrank : Phase.assigning.rank ≤ s.phase.rank) :
    s.pastAssigning := by
  unfold pastAssigning
  cases hphase : s.phase <;> rw [hphase] at h hrank <;> first | exact absurd rfl h | (revert hrank; decide)

end Status

namespace Reconcile

/-- A failed assignment is held against the task and not on record yet. -/
structure Owed (p : Policy) (s : Status) (failed taken : Nat) : Prop where
  count : s.attempts + 1 = failed
  limit : failed ≤ p.assignmentMaxAttempts
  reason : s.reason ≠ some .assignmentFailure
  assigning : Phase.assigning.rank ≤ s.phase.rank
  untaken : taken = 0

/-- How the record stands to the number of assignments that failed, and to how often a pass has moved the task on from
being assigned: all failures are on record, or the last one has ended the task, or somebody else had moved the task on
before that could be recorded. -/
inductive Tally (p : Policy) (s : Status) (failed taken : Nat) : Prop
  | even (hcount : s.attempts = failed) (hlimit : failed < p.assignmentMaxAttempts)
      (hreason : s.reason ≠ some .assignmentFailure) (htaken : s.pastAssigning = false → taken = 0)
  | ended (hcount : s.attempts + 1 = failed) (hlimit : failed = p.assignmentMaxAttempts)
      (hreason : s.reason = some .assignmentFailure) (hended : s.phase.isTerminal)
  | beaten (howed : Owed p s failed taken) (hpast : s.pastAssigning)

variable {p : Policy} {s next : Status} {failed taken taken' : Nat}

theorem Owed.uncounted (h : Owed p s failed taken) (huncounted : s.Uncounted next) : Owed p next failed taken where
  count := by rw [huncounted.attempts, h.count]
  limit := h.limit
  reason := huncounted.reason h.reason
  assigning := h.assigning.trans huncounted.follows.rank
  untaken := h.untaken

theorem Owed.attempts_lt (h : Owed p s failed taken) : s.attempts < p.assignmentMaxAttempts := by
  have hlimit := h.limit
  rw [← h.count] at hlimit
  exact hlimit

namespace Tally

theorem uncounted (h : Tally p s failed taken) (huncounted : s.Uncounted next)
    (htaken : s.pastAssigning ∨ next.pastAssigning = false → taken' = taken) : Tally p next failed taken' := by
  cases h with
  | even hcount hlimit hreason hzero =>
      refine .even (huncounted.attempts.trans hcount) hlimit (huncounted.reason hreason) fun hnext => ?_
      -- If the task is not past being assigned now, it was not before, so no pass has moved it on meanwhile.
      have hs : s.pastAssigning = false := by
        by_contra hs
        rw [huncounted.follows.pastAssigning (by simpa using hs)] at hnext
        cases hnext
      rw [htaken (.inr hnext), hzero hs]
  | ended hcount hlimit hreason hended =>
      have hsame := huncounted.follows.ended hended
      exact .ended (by rw [huncounted.attempts, hcount]) hlimit (hsame.reason.trans hreason) (hsame.phase ▸ hended)
  | beaten howed hpast =>
      rw [htaken (.inl hpast)]
      exact .beaten (howed.uncounted huncounted) (huncounted.follows.pastAssigning hpast)

theorem attempts_lt (h : Tally p s failed taken) : s.attempts < p.assignmentMaxAttempts := by
  cases h with
  | even hcount hlimit => exact hcount ▸ hlimit
  | ended hcount hlimit =>
      rw [← hlimit, ← hcount]
      exact Nat.lt_succ_self _
  | beaten howed => exact howed.attempts_lt

theorem failed_le (h : Tally p s failed taken) : failed ≤ p.assignmentMaxAttempts := by
  cases h with
  | even _ hlimit => exact hlimit.le
  | ended _ hlimit => exact hlimit.le
  | beaten howed => exact howed.limit

theorem of_reason (h : Tally p s failed taken) (hreason : s.reason = some .assignmentFailure) :
    failed = p.assignmentMaxAttempts := by
  cases h with
  | even _ _ hnot => exact absurd hreason hnot
  | ended _ hlimit => exact hlimit
  | beaten howed => exact absurd hreason howed.reason

theorem of_assigning (h : Tally p s failed taken) (hphase : s.phase = .assigning) :
    s.attempts = failed ∧ failed < p.assignmentMaxAttempts ∧ s.reason ≠ some .assignmentFailure ∧ taken = 0 := by
  have hnot := Status.not_pastAssigning hphase
  cases h with
  | even hcount hlimit hreason htaken => exact ⟨hcount, hlimit, hreason, htaken hnot⟩
  | ended _ _ _ hended => exact absurd (hphase ▸ hended) (by decide)
  | beaten _ hpast => exact absurd (hnot.symm.trans hpast) (by decide)

theorem owed (h : Tally p s failed taken) (hphase : s.phase = .assigning) : Owed p s (failed + 1) taken := by
  obtain ⟨hcount, hlimit, hreason, htaken⟩ := h.of_assigning hphase
  exact ⟨congrArg (· + 1) hcount, hlimit, hreason, by rw [hphase], htaken⟩

end Tally

end Reconcile

namespace Change

variable {now : Instant} {r : Record} {next : Status} {change : Change}

def Uncounted (change : Change) : Prop := ∀ now r next, change now r = some next → r.status.Uncounted next

theorem reason_terminate {s : Status} {reason : EndReason} {message : Option String}
    (h : s.terminate? now reason message = some next) (hreason : reason ≠ .assignmentFailure) :
    next.reason ≠ some .assignmentFailure := by
  rw [terminate_eq h]
  exact fun he => hreason (Option.some.inj he)

theorem uncounted_of_terminate {s : Status} {reason : EndReason} {message : Option String}
    (h : s.terminate? now reason message = some next) (hreason : reason ≠ .assignmentFailure) : s.Uncounted next :=
  ⟨Status.follows_of_terminate h, (course_terminate h).attempts, fun _ => reason_terminate h hreason⟩

theorem uncounted_finish {reason : EndReason} {message : Option String} (hreason : reason ≠ .assignmentFailure) :
    (finish reason message).Uncounted :=
  fun _ _ _ h => uncounted_of_terminate h hreason

theorem uncounted_of_pass (hpass : change.OfPass)
    (h : ∀ now r next, change now r = some next → next.attempts = r.status.attempts ∧ next.reason = r.status.reason) :
    change.Uncounted := by
  intro now r next hnext
  obtain ⟨hattempts, hreason⟩ := h now r next hnext
  exact ⟨hpass.follows hnext, hattempts, fun hr => by rwa [hreason]⟩

theorem OfAdvance.uncounted (h : change.OfAdvance) : change.Uncounted := by
  cases h with
  | finish hreason => exact uncounted_finish hreason
  | startProvisioning =>
      refine uncounted_of_pass .startProvisioning fun now r next h => ?_
      obtain ⟨-, ⟨⟩⟩ := Option.ite_none_right_eq_some.mp h
      exact ⟨rfl, rfl⟩
  | forgetSandbox =>
      refine uncounted_of_pass .forgetSandbox fun now r next h => ?_
      obtain ⟨-, ⟨⟩⟩ := Option.ite_none_right_eq_some.mp h
      exact ⟨rfl, rfl⟩
  | markReady address =>
      refine uncounted_of_pass (.markReady address) fun now r next h => ?_
      obtain ⟨-, rfl⟩ := markReady_eq h
      exact ⟨rfl, rfl⟩

theorem uncounted_recordSandbox (sandbox : SandboxRef) : (recordSandbox sandbox).Uncounted := by
  refine uncounted_of_pass (.recordSandbox sandbox) fun now r next h => ?_
  obtain ⟨-, ⟨⟩⟩ := Option.ite_none_right_eq_some.mp h
  exact ⟨rfl, rfl⟩

theorem uncounted_startAssigning : startAssigning.Uncounted := by
  refine uncounted_of_pass .startAssigning fun now r next h => ?_
  obtain ⟨-, ⟨⟩⟩ := Option.ite_none_right_eq_some.mp h
  exact ⟨rfl, rfl⟩

theorem uncounted_assigned : assigned.Uncounted := by
  refine uncounted_of_pass .assigned fun now r next h => ?_
  obtain ⟨-, ⟨⟩⟩ := Option.ite_none_right_eq_some.mp h
  exact ⟨(course_noteWorker r.status).attempts, Job.reason_noteWorker r.status⟩

theorem uncounted_assignmentFailed (message : String) : (assignmentFailed message false).Uncounted := by
  refine uncounted_of_pass (.assignmentFailed message false) fun now r next h => ?_
  obtain ⟨-, ⟨⟩⟩ := Option.ite_none_right_eq_some.mp h
  exact ⟨rfl, rfl⟩

theorem uncounted_sandboxDeleted (reason : String) : (sandboxDeleted reason).Uncounted := by
  refine uncounted_of_pass (.sandboxDeleted reason) fun now r next h => ?_
  obtain ⟨-, ⟨⟩⟩ := Option.ite_none_left_eq_some.mp h
  exact ⟨rfl, rfl⟩

theorem uncounted_notified (delivered : Bool) (reason : String) (message : Option String) :
    (notified delivered reason message).Uncounted := by
  refine uncounted_of_pass (.notified delivered reason message) fun now r next h => ?_
  obtain ⟨-, ⟨⟩⟩ := Option.ite_none_left_eq_some.mp h
  exact ⟨rfl, rfl⟩

/-- Made of a record of which `knows` is true, and whose account is as stated, the change leaves it with all settled. -/
structure Settles (p : Policy) (account : Status → Nat → Nat → Prop) (knows : Status → Prop) (change : Change) :
    Prop where
  applied : ∀ now r next failed taken taken', knows r.status → account r.status failed taken →
    change now r = some next → (r.status.pastAssigning ∨ next.pastAssigning = false → taken' = taken) →
    Tally p next failed taken'
  unchanged : ∀ now r failed taken, knows r.status → account r.status failed taken → change now r = none →
    Tally p r.status failed taken

variable {p : Policy} {knows : Status → Prop}

theorem Uncounted.settles (h : change.Uncounted) : change.Settles p (Tally p) knows where
  applied _ _ _ _ _ _ _ htally hnext htaken := htally.uncounted (h _ _ _ hnext) htaken
  unchanged _ _ _ _ _ htally _ := htally

theorem settles_assignmentFailed (message : String) : (assignmentFailed message true).Settles p (Owed p)
    (·.attempts + 1 < p.assignmentMaxAttempts) where
  applied now r next failed taken taken' hmore howed hnext htaken := by
    obtain ⟨hphase, ⟨⟩⟩ := Option.ite_none_right_eq_some.mp hnext
    have hstill := Status.not_pastAssigning hphase
    exact .even howed.count (howed.count ▸ hmore) howed.reason fun _ => (htaken (.inr hstill)).trans howed.untaken
  unchanged now r failed taken _ howed hnone := by
    have hphase : r.status.phase ≠ .assigning := fun h => by simp [assignmentFailed, h] at hnone
    exact .beaten howed (Status.pastAssigning_of_ne hphase howed.assigning)

theorem settles_finish (message : Option String) : (finish .assignmentFailure message).Settles p (Owed p)
    (p.assignmentMaxAttempts ≤ ·.attempts + 1) where
  applied now r next failed taken taken' hlast howed hnext _ := by
    have hlimit : failed = p.assignmentMaxAttempts := le_antisymm howed.limit (howed.count ▸ hlast)
    rw [terminate_eq hnext]
    exact .ended howed.count hlimit rfl rfl
  unchanged now r failed taken _ howed hnone :=
    .beaten howed (Status.pastAssigning_of_isTerminal (Status.terminate_eq_none.mp hnone))

theorem pastAssigning_noteWorker (now : Instant) {s : Status} (h : Phase.assigning.rank ≤ s.phase.rank) :
    (noteWorker now s).pastAssigning := by
  by_cases hphase : s.phase = .assigning
  · simp [noteWorker, hphase, Status.pastAssigning, Phase.rank]
  · have hpast := Status.pastAssigning_of_ne hphase h
    exact decide_eq_true ((of_decide_eq_true hpast).trans_le (rank_le_noteWorker s))

theorem reported_reason (report : Report) (now : Instant) {s : Status} (hs : s.phase.isTerminal = false) :
    (reported report now s).reason = s.reason ∧ (reported report now s).phase = (noteWorker now s).phase ∨
    (reported report now s).reason ≠ some .assignmentFailure ∧ (reported report now s).phase.isTerminal := by
  have hend (reason : EndReason) (hreason : reason ≠ .assignmentFailure) :
      ((s.terminate? now reason report.message).getD s).reason ≠ some .assignmentFailure ∧
      ((s.terminate? now reason report.message).getD s).phase.isTerminal := by
    cases h : s.terminate? now reason report.message with
    | none => exact absurd (hs.symm.trans (Status.terminate_eq_none.mp h)) (by decide)
    | some next =>
        refine ⟨reason_terminate h hreason, ?_⟩
        rw [Option.getD_some, terminate_eq h]
        exact EndReason.isTerminal_phase reason
  unfold reported
  cases report.kind with
  | started | progress => exact .inl ⟨Job.reason_noteWorker s, rfl⟩
  | completed | failed => exact .inr (hend _ (by decide))

theorem overtaken_of_report {report : Report} (h : Change.report report now r = some next) :
    r.status.Overtaken next := by
  have hfollows := report_follows h
  obtain ⟨hopen, rfl⟩ := report_eq h
  have hcourse : r.status.SameCourse (reported report now r.status) := (keeps_reported report r.status).2
  obtain ⟨hreason, hphase⟩ | ⟨hreason, hended⟩ := reported_reason report now hopen
  · refine ⟨⟨hfollows, hcourse.attempts, fun hr => by rwa [hreason]⟩, hcourse, fun hrank => ?_⟩
    have hpast := pastAssigning_noteWorker now hrank
    unfold Status.pastAssigning at hpast ⊢
    rwa [hphase]
  · exact ⟨⟨hfollows, hcourse.attempts, fun _ => hreason⟩, hcourse, fun _ => Status.pastAssigning_of_isTerminal hended⟩

theorem overtaken_of_cancel (h : cancel now r = some next) : r.status.Overtaken next := by
  refine ⟨uncounted_finish (by decide) now r next h, course_terminate h, fun _ => ?_⟩
  rw [terminate_eq h]
  rfl

end Change

end SandboxTasks
