import SandboxTasks.Proofs.Task.WellFormed

namespace SandboxTasks

open Store

/-- What a job has done, and what is on record of the task, speak for this reason to end it. -/
inductive Job.Justifies (j : Job) (past : History) (r : Record) : EndReason → Prop
  | completed {report} (hjob : j = .report report) (hkind : report.kind = .completed) : Justifies j past r .completed
  | failed {report} (hjob : j = .report report) (hkind : report.kind = .failed) :
      Justifies j past r .workerReportedFailure
  | canceled (hjob : j = .cancel) : Justifies j past r .canceled
  | taskTimeout {policy notifier now} (hjob : j = .pass policy notifier) (hnow : ⟨.now, now⟩ ∈ past)
      (hlate : Reconcile.hasElapsed now r.createdAt policy.taskTimeout) : Justifies j past r .taskTimeout
  | provisioningTimeout {policy notifier now since} (hjob : j = .pass policy notifier)
      (hready : r.status.readyAt = none) (hsince : r.status.provisioningSince = some since) (hnow : ⟨.now, now⟩ ∈ past)
      (hlate : Reconcile.hasElapsed now since policy.provisioningWindow) : Justifies j past r .provisioningTimeout
  | assignmentFailure {policy notifier address api e} (hjob : j = .pass policy notifier)
      (hfailed : ⟨.assign address r.id api, .error e⟩ ∈ past)
      (hlimit : policy.assignmentMaxAttempts ≤ r.status.attempts + 1) : Justifies j past r .assignmentFailure
  | runnerExited {policy notifier sandbox state} {before : History} {q : Record} (hjob : j = .pass policy notifier)
      (hready : r.status.readyAt.isSome) (hpoll : ⟨.poll sandbox, .ok state⟩ :: before <:+ past) (hgone : state.IsGone)
      (hshown : before.Shows q) (hphase : q.status.phase.IsReady) : Justifies j past r .runnerExitedWithoutStatus

namespace Job

variable {j : Job} {past : History} {r q : Record} {reason : EndReason} {change : Change} {now : Instant}
  {next : Status}

/-- What spoke for the reason still does as long as the same is on record of the way of the task to its worker. -/
theorem Justifies.of_course (h : j.Justifies past r reason) (hrest : q = { r with status := q.status })
    (hcourse : r.status.SameCourse q.status) : j.Justifies past q reason := by
  have hid : q.id = r.id := by rw [hrest]
  have hcreated : q.createdAt = r.createdAt := by rw [hrest]
  cases h with
  | completed hjob hkind => exact .completed hjob hkind
  | failed hjob hkind => exact .failed hjob hkind
  | canceled hjob => exact .canceled hjob
  | taskTimeout hjob hnow hlate => exact .taskTimeout hjob hnow (hcreated ▸ hlate)
  | provisioningTimeout hjob hready hsince hnow hlate =>
      exact .provisioningTimeout hjob (hcourse.readyAt.trans hready) (hcourse.provisioningSince.trans hsince) hnow hlate
  | assignmentFailure hjob hfailed hlimit =>
      exact .assignmentFailure hjob (hid ▸ hfailed) (hcourse.attempts ▸ hlimit)
  | runnerExited hjob hready hpoll hgone hshown hphase =>
      exact .runnerExited hjob (hcourse.readyAt ▸ hready) hpoll hgone hshown hphase

theorem justifies_of_finds {alone : Prop} {policy : Reconcile.Policy} {notifier : Callback.Notifier} {earlier : History}
    (hjob : j = .pass policy notifier) (h : Reconcile.Finds alone policy earlier r reason) (halone : alone)
    (hearlier : earlier <:+ past) (hr : r.status.WellFormed) (hbecomes : r.Becomes alone q) :
    j.Justifies past q reason := by
  suffices hfound : j.Justifies past r reason from hfound.of_course hbecomes.rest (hbecomes.course halone)
  cases h with
  | taskTimeout hnow hlate => exact .taskTimeout hjob (hearlier.mem hnow) hlate
  | provisioningTimeout hnow hphase hlate =>
      obtain ⟨hsince, hready, -⟩ := hr.provisioning hphase
      obtain ⟨since, hsince⟩ := Option.isSome_iff_exists.mp hsince
      rw [hsince] at hlate
      exact .provisioningTimeout hjob hready hsince (hearlier.mem hnow) hlate
  | assignmentFailure hfailed hlimit =>
      obtain ⟨address, api, e, rest, hlog⟩ := hfailed
      have hmem : ⟨.assign address r.id api, .error e⟩ ∈ earlier.outside := hlog ▸ .head _
      exact .assignmentFailure hjob (hearlier.mem (List.mem_filter.mp hmem).1) (hlimit halone)
  | runnerExited hpoll hgone hshown hphase =>
      exact .runnerExited hjob (hr.ready hphase).1 (hpoll ▸ hearlier) hgone hshown hphase

theorem reason_noteWorker (s : Status) : (Change.noteWorker now s).reason = s.reason := by
  unfold Change.noteWorker
  split <;> rfl

theorem justifies_of_report {report : Report} (hs : r.status.phase.isTerminal = false) (hr : r.status.reason = none)
    (hreason : (Change.reported report now r.status).reason = some reason) :
    (Job.report report).Justifies past q reason := by
  have hend (given : EndReason)
      (h : ((r.status.terminate? now given report.message).getD r.status).reason = some reason) : given = reason := by
    cases ht : r.status.terminate? now given report.message with
    | none => exact absurd (Status.terminate_eq_none.mp ht) (by simp [hs])
    | some next =>
        rw [ht, Option.getD_some, Change.terminate_eq ht] at h
        exact Option.some.inj h
  have hworker : (Change.noteWorker now r.status).reason ≠ some reason := by
    rw [reason_noteWorker, hr]
    exact fun h => nomatch h
  unfold Change.reported at hreason
  cases hkind : report.kind with
  | started | progress =>
      rw [hkind] at hreason
      exact absurd hreason hworker
  | completed =>
      rw [hkind] at hreason
      cases hend _ hreason
      exact .completed rfl hkind
  | failed =>
      rw [hkind] at hreason
      cases hend _ hreason
      exact .failed rfl hkind

theorem justifies_of_kept (hr : r.status.reason = none) (hsame : next.reason = r.status.reason)
    (hreason : next.reason = some reason) : j.Justifies past { r with status := next } reason := by
  rw [hsame, hr] at hreason
  cases hreason

theorem Makes.justifies {writes : Nat} (h : j.Makes writes change) (hpass : ¬ j.isPass)
    (hchange : change now r = some next) (hr : r.status.reason = none) (hreason : next.reason = some reason) :
    j.Justifies past { r with status := next } reason := by
  cases h with
  | report report =>
      obtain ⟨hs, rfl⟩ := Change.report_eq hchange
      exact justifies_of_report hs hr hreason
  | cancel =>
      rw [Change.terminate_eq hchange] at hreason
      cases hreason
      exact .canceled rfl
  | reserve =>
      obtain ⟨-, hnext⟩ := Option.ite_none_left_eq_some.mp hchange
      cases hnext
      exact justifies_of_kept hr rfl hreason
  | giveBack | release =>
      obtain ⟨-, hnext⟩ := Option.ite_none_right_eq_some.mp hchange
      cases hnext
      exact justifies_of_kept hr rfl hreason
  | pass => exact absurd rfl hpass

theorem justifies_of_warranted {alone : Prop} {policy : Reconcile.Policy} {notifier : Callback.Notifier}
    {earlier : History} (hjob : j = .pass policy notifier)
    (h : Reconcile.Warranted alone policy notifier earlier q change) (halone : alone) (hearlier : earlier <:+ past)
    (hq : q.status.WellFormed) (hbecomes : q.Becomes alone r) (hchange : change now r = some next)
    (hr : r.status.reason = none) (hreason : next.reason = some reason) :
    j.Justifies past { r with status := next } reason := by
  cases h with
  | finish hfinds =>
      have hended := Change.terminate_eq hchange
      rw [hended] at hreason
      cases hreason
      have hown : r.Becomes alone { r with status := next } := .of_conditions (Status.follows_of_terminate hchange)
        (Change.conditions_terminate hchange) fun _ => Change.course_terminate hchange
      exact justifies_of_finds hjob hfinds halone hearlier hq (hbecomes.trans hown)
  | assigned =>
      obtain ⟨-, hnext⟩ := Option.ite_none_right_eq_some.mp hchange
      cases hnext
      exact justifies_of_kept hr (reason_noteWorker r.status) hreason
  | startProvisioning | recordSandbox | forgetSandbox | markReady | startAssigning | assignmentFailed =>
      obtain ⟨-, hnext⟩ := Option.ite_none_right_eq_some.mp hchange
      cases hnext
      exact justifies_of_kept hr rfl hreason
  | sandboxDeleted | notified =>
      obtain ⟨-, hnext⟩ := Option.ite_none_left_eq_some.mp hchange
      cases hnext
      exact justifies_of_kept hr rfl hreason

/-- Whatever ends a task speaks for the reason it gives. -/
theorem Grounds.justifies {alone : Prop} (h : j.Grounds alone past r change) (halone : j.isPass → alone)
    (hshown : ∀ q, past.Shows q → q.status.WellFormed) (hchange : change now r = some next)
    (hr : r.status.reason = none) (hreason : next.reason = some reason) :
    j.Justifies past { r with status := next } reason := by
  cases h with
  | plain hpass h => exact h.justifies hpass hchange hr hreason
  | pass hpass h =>
      obtain ⟨hearlier, -, hknown, hbecomes, h⟩ := h
      exact justifies_of_warranted hpass h (halone (hpass ▸ rfl)) hearlier (hshown _ (hknown.of_suffix hearlier))
        hbecomes hchange hr hreason

end Job

variable {id : String} {C : Contract id} {others : C.State → C.State → Prop} {c d : Pool C}

/-- The thread has ended the task for this reason, and this is what it had done until then. -/
inductive Thread.Ends (id : String) (reason : EndReason) (before : History) : Thread → Prop
  | intro {t : Thread} {later : History} {version next w}
      (hpast : t.past = later ++ ⟨.swap id version next, .ok w⟩ :: before) (hreason : next.reason = some reason)
      (hopen : ∀ r, before.lastSeen? = some r → r.record.status.phase.isTerminal = false) : Ends id reason before t

theorem Thread.Ends.suffix {reason : EndReason} {before : History} {t u : Thread} (h : t.Ends id reason before)
    (hpast : t.past <:+ u.past) : u.Ends id reason before := by
  obtain ⟨ht, hreason, hopen⟩ := h
  obtain ⟨more, hmore⟩ := hpast
  exact .intro (by rw [← hmore, ht, List.append_assoc]) hreason hopen

/-- Of a task that has ended, some thread has ended it, on what speaks for the reason. -/
def Pool.Justified (c : Pool C) : Prop :=
  ∀ q, C.current c.state = some q → ∀ reason, q.record.status.reason = some reason →
    ∃ t ∈ c.threads, ∃ before, t.Ends id reason before ∧ t.job.Justifies before q.record reason

theorem Orderly.justified (h : Orderly C others c d)
    (hothers : ∀ s s', others s s' → Spares (C.current s) (C.current s')) (hc : c.SerialInvariant)
    (hall : c.All (·.status.WellFormed)) (hjustified : c.Justified) : d.Justified := by
  intro q hq reason hreason
  have hlater {t : Thread} {before : History} (ht : t ∈ c.threads) (hends : t.Ends id reason before)
      (hjustifies : t.job.Justifies before q.record reason) : ∃ t ∈ d.threads, ∃ before,
        t.Ends id reason before ∧ t.job.Justifies before q.record reason := by
    obtain ⟨u, hu, hjob, hpast⟩ := h.descendant ht
    exact ⟨u, hu, before, hends.suffix hpast, hjob ▸ hjustifies⟩
  obtain hsame | ⟨t, change, now, r, hwritten⟩ := h.written hothers hc hq
  · obtain ⟨t, ht, before, hends, hjustifies⟩ := hjustified q hsame reason hreason
    exact hlater ht hends hjustifies
  · have hr := hall.current r hwritten.before
    cases hended : r.record.status.phase.isTerminal with
    | true =>
        have hsame := (hwritten.grounds.makes.follows hwritten.changes).ended hended
        obtain ⟨t, ht, before, hends, hjustifies⟩ :=
          hjustified r hwritten.before reason (hsame.reason.symm.trans hreason)
        refine hlater ht hends (hjustifies.of_course hwritten.record ?_)
        exact hwritten.grounds.makes.course_of_ended hwritten.changes hended
    | false =>
        obtain ⟨u, hu, hjob, hpast⟩ := hwritten.after
        refine ⟨u, hu, t.past, .intro (hpast.trans (List.nil_append _).symm) hreason fun r' hr' => ?_, ?_⟩
        · cases hwritten.seen.symm.trans hr'
          exact hended
        · rw [hjob, hwritten.record]
          have hnone := (hr.open_eq hended).1
          exact hwritten.grounds.justifies (fun h => h) (hall.shown t hwritten.mem) hwritten.changes hnone hreason

theorem Pool.justified_new {s : C.State} (hnew : ∀ q, C.current s = some q → q.record.status = .initial) :
    (⟨s, []⟩ : Pool C).Justified := by
  intro q hq reason hreason
  rw [hnew q hq] at hreason
  cases hreason

theorem run_justified (h : OrderlyRun C others c d)
    (hothers : ∀ s s', others s s' → Spares (C.current s) (C.current s')) (hc : c.SerialInvariant)
    (hall : c.All (·.status.WellFormed)) (hjustified : c.Justified) : d.Justified := by
  induction h with
  | refl => exact hjustified
  | tail hrun hs ih =>
      exact hs.justified hothers (run_serialInvariant hrun hothers hc) (run_all kept_wellFormed hrun hothers hc hall) ih

/-- Passes take turns at a new task, each of them dropped wherever it may be, and all other jobs act in between. A task
that has ended for some reason was ended by one of them, which had found what speaks for the reason, and that is still
so. -/
theorem reason_justified {s : C.State} (hrun : OrderlyRun C others ⟨s, []⟩ c)
    (hothers : ∀ s s', others s s' → Spares (C.current s) (C.current s'))
    (hnew : ∀ r, C.current s = some r → r.record.status = .initial) {q : Versioned} (hq : C.current c.state = some q)
    {reason : EndReason} (hreason : q.record.status.reason = some reason) :
    ∃ t ∈ c.threads, ∃ before, t.Ends id reason before ∧ t.job.Justifies before q.record reason := by
  have hjustified :=
    run_justified hrun hothers (serialInvariant_idle s) (Pool.wellFormed_new hnew) (Pool.justified_new hnew)
  exact hjustified q hq reason hreason

/-- The sandbox is gone right after it was ready. -/
theorem reason_justified_exited : ∃ (c : Pool (Memory.contract "task")) (q : Versioned),
    OrderlyRun _ (fun s s' => s' = s) ⟨Memory.holding Memory.sample 1, []⟩ c ∧ Contract.current _ c.state = some q ∧
    ∃ t ∈ c.threads, ∃ before, t.Ends "task" .runnerExitedWithoutStatus before ∧
      t.job.Justifies before q.record .runnerExitedWithoutStatus := by
  suffices h : ∃ (c : Pool (Memory.contract "task")) (q : Versioned),
      OrderlyRun _ (fun s s' => s' = s) ⟨Memory.holding Memory.sample 1, []⟩ c ∧ Contract.current _ c.state = some q ∧
      q.record.status.reason = some .runnerExitedWithoutStatus by
    obtain ⟨c, q, hrun, hq, hreason⟩ := h
    refine ⟨c, q, hrun, hq, reason_justified hrun (fun _ _ ho => .inl (ho ▸ rfl)) (fun r hr => ?_) hq hreason⟩
    cases Memory.current_holding.symm.trans hr
    rfl
  have hstores := Memory.stores "task" default
  exact ⟨_, _, .start (.pass onceTried .off) rfl (fun _ => rfl) <|
    .answers [] (.read hstores rfl <| .round hstores rfl rfl rfl <| .head (Memory.holding_now default) <|
      .head (Memory.holding_provision (.ok ⟨"sandbox", none⟩)) <| .round hstores rfl rfl rfl <|
      .head (Memory.holding_now default) .refl) <| .start (.pass onceTried .off) rfl (fun _ => rfl) <|
    .answers [] (.read hstores rfl <| .head (Memory.holding_now default) <|
      .head (Memory.holding_poll (.ok (.ready "address"))) <| .round hstores rfl rfl rfl <|
      .head (Memory.holding_poll (.ok .absent)) <|
      .round hstores rfl rfl rfl .refl) .refl, Memory.current_holding, rfl⟩

end SandboxTasks
