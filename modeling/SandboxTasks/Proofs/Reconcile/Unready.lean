import SandboxTasks.Proofs.Concurrent.Run
import SandboxTasks.Proofs.Reconcile.Walk
import SandboxTasks.Proofs.Task.Change

namespace SandboxTasks

open Store

/-- The job neither drives the task nor ends it. -/
def Job.isQuiet : Job → Bool
  | .report r => !r.kind.isTerminal
  | .credential _ | .leftover _ => true
  | .cancel | .pass _ _ => false

def Operation.Assigns : Operation → Prop
  | .assign _ _ _ => True
  | _ => False

namespace Reconcile

/-- How far a task has come whose sandbox was never ready. -/
inductive Stage where
  | fresh
  | waiting
  | ended (reason : EndReason)

/-- The status is at the stage, of a task that was taken up as soon as it was created. -/
def Stage.Of (created : Instant) : Stage → Status → Prop
  | .fresh, s => s.phase = .pending
  | .waiting, s => s.phase = .provisioning ∧ s.provisioningSince = some created
  | .ended reason, s => s.phase = .timedOut ∧ s.reason = some reason

structure Stage.Shows (id : String) (created : Instant) (stage : Stage) (r : Record) : Prop where
  id : r.id = id
  createdAt : r.createdAt = created
  status : stage.Of created r.status

variable {id : String} {C : Contract id} {created now : Instant} {stage next : Stage} {α β : Type}
  {s s' : C.State} {r : Record}

def AtStage (C : Contract id) (created : Instant) (stage : Stage) (s : C.State) : Prop :=
  ∃ t, C.current s = some t ∧ stage.Shows id created t.record

theorem AtStage.served {op : Operation} {a : op.Answer} (h : AtStage C created stage s) (hs : C.serves s op a s')
    (hop : ¬ op.WritesTo id) : AtStage C created stage s' := by
  obtain ⟨t, ht, hshows⟩ := h
  refine ⟨t, ?_, hshows⟩
  rw [Contract.current, C.elsewhere hs hop]
  exact ht

theorem noteWorker_eq {status : Status} (h : stage.Of created status) : Change.noteWorker now status = status := by
  refine if_neg fun hphase => ?_
  cases stage with
  | fresh =>
      have hpending : status.phase = .pending := h
      simp [hpending] at hphase
  | waiting => simp [h.1] at hphase
  | ended => simp [h.1] at hphase

theorem Stage.Of.report {report : Report} {status : Status} (hreport : report.kind.isTerminal = false)
    (h : stage.Of created r.status) (hchange : Change.report report now r = some status) : stage.Of created status := by
  obtain ⟨-, rfl⟩ := Change.report_eq hchange
  unfold Change.reported
  cases hkind : report.kind with
  | started | progress =>
      simp only [noteWorker_eq h]
      cases stage <;> exact h
  | completed | failed =>
      rw [hkind] at hreport
      cases hreport

theorem Stage.Of.quiet {j : Job} {writes : Nat} {change : Change} {status : Status} (hquiet : j.isQuiet)
    (hmakes : j.Makes writes change) (h : stage.Of created r.status) (hchange : change now r = some status) :
    stage.Of created status := by
  cases hmakes with
  | report report => exact h.report (by simpa [Job.isQuiet] using hquiet) hchange
  | cancel | pass => cases hquiet
  | reserve =>
      obtain ⟨-, he⟩ := Option.ite_none_left_eq_some.mp hchange
      cases he
      cases stage <;> exact h
  | giveBack | release =>
      obtain ⟨-, he⟩ := Option.ite_none_right_eq_some.mp hchange
      cases he
      cases stage <;> exact h

/-- The clock stands still and no sandbox is ready. Whether one can be had at all is left open. -/
def Told (now : Instant) : (op : Operation) → op.Answer → Prop
  | .now, t => t = now
  | .poll _, a => ∃ state, a = .ok state ∧ ∀ address, state ≠ .ready address
  | _, _ => True

variable {why : EndReason → Prop} {reason : EndReason} {p : Policy} {n : Callback.Notifier}

/-- Others leave the task at its stage while a request waits, and its answer tells what `Told` says. A pass then assigns
the task to no worker. If it halts and not because the store failed, then the task has ended, for a reason for which it
may end now. -/
def Rule.unready (C : Contract id) (created now : Instant) (why : EndReason → Prop) : Rule C.State where
  around := ⟨fun s s₁ => ∀ stage, AtStage C created stage s → AtStage C created stage s₁,
    fun _ s op a s' => C.serves s op a s' ∧ Told now op a⟩
  may _ _ op := ¬ op.Assigns
  halts _ s
    | .store _ => True
    | .provision _ => ∃ reason, why reason ∧ AtStage C created (.ended reason) s

structure Takes (created now : Instant) (change : Change) (stage next : Stage) : Prop where
  applied : ∀ r status, r.createdAt = created → stage.Of created r.status → change now r = some status →
    next.Of created status
  unchanged : ∀ r, r.createdAt = created → stage.Of created r.status → change now r = none → next.Of created r.status

structure Reads (C : Contract id) (created : Instant) (stage : Stage) (q : Versioned) (s : C.State) : Prop where
  shows : stage.Shows id created q.record
  still : ∀ stage, stage.Shows id created q.record → AtStage C created stage s

theorem rounds_unready {change : Change} (hchange : Takes created now change stage next) :
    Rounds (Rule.unready C created now why).around (Rule.unready C created now why).may id change
      (fun _ _ s => AtStage C created stage s)
      (fun _ q _ s => Reads C created stage q s) (fun _ q clock _ s => clock = now ∧ Reads C created stage q s)
      fun
        | .ok modified => fun _ s => AtStage C created next s ∧ next.Shows id created modified.task.record
        | .error _ => fun _ s => AtStage C created stage s where
  exhausted _ _ h := h
  find left _ s h s₁ h₁ := by
    refine ⟨not_false, fun found s₂ hanswered => ?_⟩
    obtain ⟨hfind, -⟩ := hanswered
    have hcurrent : C.current s₂ = C.current s₁ := congrArg View.current (C.elsewhere hfind (by simp))
    obtain ⟨q, hq, hshows⟩ := (h₁ stage h).served hfind (by simp)
    rcases found with e | _ | t
    · exact ⟨q, hq, hshows⟩
    · cases (hcurrent.symm.trans hq).symm.trans (C.find_ok hfind).symm
    · cases (hcurrent.symm.trans hq).symm.trans (C.find_ok hfind).symm
      exact ⟨hshows, fun other hother => ⟨q, hq, hother⟩⟩
  now left q _ s h s₁ h₁ := by
    refine ⟨not_false, fun clock s₂ hanswered => ?_⟩
    obtain ⟨hserved, hclock⟩ := hanswered
    exact ⟨hclock, h.shows, fun other hother => (h₁ other (h.still other hother)).served hserved (by simp)⟩
  unchanged left q clock _ s h hnone := by
    obtain ⟨rfl, hshows, hstill⟩ := h
    have hunchanged : next.Shows id created q.record :=
      ⟨hshows.id, hshows.createdAt, hchange.unchanged _ hshows.createdAt hshows.status hnone⟩
    exact ⟨hstill next hunchanged, hunchanged⟩
  swap left q clock status hnext _ s h s₁ h₁ := by
    obtain ⟨rfl, hshows, hstill⟩ := h
    have hstatus := hchange.applied _ _ hshows.createdAt hshows.status hnext
    obtain ⟨r, hr, hstage⟩ := h₁ stage (hstill stage hshows)
    refine ⟨not_false, fun swapped s₂ hanswered => ?_⟩
    obtain ⟨hswap, -⟩ := hanswered
    match swapped, hswap with
    | .ok t, hswap =>
        obtain ⟨-, hafter, r', hbefore, -, hrecord⟩ := C.swap_ok hswap
        cases hbefore.symm.trans hr
        have ht : next.Shows id created t.record := by
          rw [hrecord]
          exact ⟨hstage.id, hstage.createdAt, hstatus⟩
        exact ⟨⟨t, hafter, ht⟩, ht⟩
    | .error (.conflict _), hswap | .error (.notFound _), hswap | .error (.alreadyExists _), hswap
    | .error (.illegalTransition _ _ _), hswap | .error (.malformed _ _), hswap | .error (.cluster _), hswap =>
        exact ⟨r, by rw [Contract.current, C.swap_error hswap]; exact hr, hstage⟩

namespace Rule

theorem asks_unready {op : Operation} (hassigns : ¬ op.Assigns) (hwrites : ¬ op.WritesTo id) :
    Asks (unready C created now why).around (unready C created now why).may (fun _ => AtStage C created stage) op
      fun a _ s => Told now op a ∧ AtStage C created stage s :=
  fun _ _ h _ h₁ => ⟨hassigns, fun _ _ hanswered => ⟨hanswered.2, (h₁ stage h).served hanswered.1 hwrites⟩⟩

theorem modify_unready {change : Change} (hchange : Takes created now change stage next) :
    (unready C created now why).Triple (fun _ => AtStage C created stage) (modify id change)
      fun modified _ s => next.Shows id created modified.task.record ∧ AtStage C created next s := by
  refine .ofStore fun past s h => ((rounds_unready hchange).upholds rounds h).mono fun _ _ result hends => ?_
  cases result with
  | ok modified => exact ⟨hends.2, hends.1⟩
  | error e => trivial

theorem poll_unready (sandbox : SandboxRef) :
    (unready C created now why).Triple (fun _ => AtStage C created stage) (ofSandbox (ask (.poll sandbox)))
      fun state _ s => (∀ address, state ≠ .ready address) ∧ AtStage C created stage s := by
  have hasks : Asks (unready C created now why).around _ (fun _ => AtStage C created stage) (.poll sandbox) _ :=
    asks_unready not_false (by simp)
  refine .ofSandbox fun past s h s₁ h₁ => ?_
  obtain ⟨hmay, hnext⟩ := hasks past s h s₁ h₁
  refine ⟨hmay, fun answer s₂ hs => ?_⟩
  obtain ⟨⟨state, rfl, hstate⟩, h₂⟩ := hnext answer s₂ hs
  exact ⟨hstate, h₂⟩

theorem find_unready : (unready C created now why).Triple (fun _ => AtStage C created stage) (ofStore (ask (.find id)))
    fun found _ s => (∃ t, found = some t ∧ stage.Shows id created t.record) ∧ AtStage C created stage s := by
  refine .ofStore fun past s h s₁ h₁ => ⟨not_false, fun found s₂ hanswered => ?_⟩
  obtain ⟨hfind, -⟩ := hanswered
  have hcurrent : C.current s₂ = C.current s₁ := congrArg View.current (C.elsewhere hfind (by simp))
  obtain ⟨t, ht, hshows⟩ := (h₁ stage h).served hfind (by simp)
  cases found with
  | error e => trivial
  | ok found =>
      cases (C.find_ok hfind).trans (hcurrent.symm.trans ht)
      exact ⟨⟨t, rfl, hshows⟩, t, ht, hshows⟩

theorem requeue_unready (hcreated : r.createdAt = created) (after : Duration) :
    (unready C created now why).Triple (fun _ => AtStage C created stage) (requeue p r after) fun outcome _ s =>
      outcome = .requeue (after.shorter (p.taskTimeout.minus (now.elapsed created))) ∧ AtStage C created stage s := by
  refine .bind (.wait (asks_unready not_false (by simp))) fun clock => .pure ?_
  rintro past s ⟨rfl, h⟩
  exact ⟨by rw [← hcreated]; rfl, h⟩

end Rule

theorem takes_startProvisioning : Takes now now Change.startProvisioning .fresh .waiting where
  applied r status _ h hchange := by
    obtain ⟨-, he⟩ := Option.ite_none_right_eq_some.mp hchange
    cases he
    exact ⟨rfl, rfl⟩
  unchanged r _ h hchange := by
    have hpending : r.status.phase = .pending := h
    simp [Change.startProvisioning, hpending] at hchange

theorem takes_recordSandbox (sandbox : SandboxRef) :
    Takes created now (Change.recordSandbox sandbox) .waiting .waiting where
  applied r status _ h hchange := by
    obtain ⟨-, he⟩ := Option.ite_none_right_eq_some.mp hchange
    cases he
    exact h
  unchanged _ _ h _ := h

theorem takes_forgetSandbox : Takes created now Change.forgetSandbox .waiting .waiting where
  applied r status _ h hchange := by
    obtain ⟨-, he⟩ := Option.ite_none_right_eq_some.mp hchange
    cases he
    exact h
  unchanged _ _ h _ := h

theorem Stage.Of.isTerminal {s : Status} (h : stage.Of created s) (hopen : stage = .fresh ∨ stage = .waiting) :
    s.phase.isTerminal = false := by
  rcases hopen with rfl | rfl
  · have hpending : s.phase = .pending := h
    rw [hpending]
    rfl
  · rw [h.1]
    rfl

theorem takes_finish {message : Option String} (hopen : stage = .fresh ∨ stage = .waiting)
    (hreason : reason.phase = .timedOut) : Takes created now (Change.finish reason message) stage (.ended reason) where
  applied r status _ h hchange := by
    rw [Change.terminate_eq hchange]
    exact ⟨hreason, rfl⟩
  unchanged r _ h hchange := by
    exact absurd ((h.isTerminal hopen).symm.trans (Status.terminate_eq_none.mp hchange)) (by decide)

theorem takes_sandboxDeleted (text : String) :
    Takes created now (Change.sandboxDeleted text) (.ended reason) (.ended reason) where
  applied r status _ h hchange := by
    obtain ⟨-, he⟩ := Option.ite_none_left_eq_some.mp hchange
    cases he
    exact h
  unchanged _ _ h _ := h

theorem takes_notified (delivered : Bool) (text : String) (message : Option String) :
    Takes created now (Change.notified delivered text message) (.ended reason) (.ended reason) where
  applied r status _ h hchange := by
    obtain ⟨-, he⟩ := Option.ite_none_left_eq_some.mp hchange
    cases he
    exact h
  unchanged _ _ h _ := h

namespace Rule

theorem cleans_unready (hid : r.id = id) (hwhy : why reason) :
    (unready C created now why).Cleans r fun _ => AtStage C created (.ended reason) := by
  subst hid
  have hasks {op : Operation} (hassigns : ¬ op.Assigns) (hwrites : ¬ op.WritesTo r.id) :
      Asks (unready C created now why).around (unready C created now why).may (fun _ => AtStage C created (.ended reason)) op
        fun _ _ => AtStage C created (.ended reason) := by
    intro past s h s₁ h₁
    obtain ⟨hmay, hnext⟩ := asks_unready hassigns hwrites past s h s₁ h₁
    exact ⟨hmay, fun answer s₂ hs => (hnext answer s₂ hs).2⟩
  refine ⟨hasks not_false (by simp), fun _ _ _ _ => hasks not_false (by simp), ?_, fun text => ?_, fun _ _ _ => ?_⟩
  · exact .deleteClaim (hasks not_false (by simp)) fun _ _ _ h => ⟨reason, hwhy, h⟩
  · exact (modify_unready (takes_sandboxDeleted text)).mono fun _ _ _ h => h.2
  · exact (modify_unready (takes_notified _ _ _)).mono fun _ _ _ h => h.2

end Rule

/-- Why a pass ends a task now that was never ready: its window is over, or even its deadline. -/
def EndsFor (p : Policy) (created now : Instant) (reason : EndReason) : Prop :=
  hasElapsed now created p.provisioningWindow ∧
    reason = if hasElapsed now created p.taskTimeout then .taskTimeout else .provisioningTimeout

/-- What a pass comes to: before the window is over it looks again later, and then it ends the task. -/
def Concludes (C : Contract id) (p : Policy) (created now : Instant) : Outcome → History → C.State → Prop
  | .requeue d, _, s => hasElapsed now created p.provisioningWindow = false ∧ AtStage C created .waiting s ∧
      d = p.provisioningPoll.shorter (p.taskTimeout.minus (now.elapsed created))
  | .done, _, s => ∃ reason, EndsFor p created now reason ∧ AtStage C created (.ended reason) s

theorem hasElapsed_of_le {short long : Duration} (h : short ≤ long) (hlong : hasElapsed now created long) :
    hasElapsed now created short := by
  simp only [hasElapsed, decide_eq_true_eq, Duration.le_iff] at *
  exact Nat.le_trans h hlong

namespace Rule

theorem requeue_concludes (hcreated : r.createdAt = created)
    (hearly : hasElapsed now created p.provisioningWindow = false) :
    (unready C created now why).Triple (fun _ => AtStage C created .waiting) (requeue p r p.provisioningPoll)
      (Concludes C p created now) := by
  refine (requeue_unready hcreated p.provisioningPoll).mono ?_
  rintro _ past s ⟨rfl, h⟩
  exact ⟨hearly, h, rfl⟩

theorem finish_concludes {message : String} (hopen : stage = .fresh ∨ stage = .waiting)
    (hwhy : EndsFor p created now reason) :
    (unready C created now (EndsFor p created now)).Triple (fun _ => AtStage C created stage)
      (finish n id reason message) (Concludes C p created now) := by
  have hphase : reason.phase = .timedOut := by
    rw [hwhy.2]
    split <;> rfl
  refine .bind (modify_unready (takes_finish hopen hphase)) fun modified => .given (fun _ _ h => h.1) fun hshows => ?_
  refine ((cleans_unready hshows.id hwhy).cleanup.mono ?_).weaken fun _ _ h => h.2
  rintro _ past s ⟨rfl, h⟩
  exact ⟨reason, hwhy, h⟩

theorem provision_concludes (hshows : Stage.waiting.Shows id created r)
    (hearly : hasElapsed now created p.provisioningWindow = false) :
    (unready C created now why).Triple (fun _ => AtStage C created .waiting) (provision p r)
      (Concludes C p created now) := by
  refine .bind (.wait (asks_unready not_false (by simp))) fun answer => ?_
  match answer with
  | .error e => exact (requeue_concludes hshows.createdAt hearly).weaken fun _ _ h => h.2
  | .ok sandbox =>
      rw [hshows.id]
      refine .bind ((modify_unready (takes_recordSandbox sandbox)).weaken fun _ _ h => h.2) fun _ => ?_
      exact (requeue_concludes hshows.createdAt hearly).weaken fun _ _ h => h.2

theorem awaitReadiness_concludes (hshows : Stage.waiting.Shows id created r)
    (htimely : hasElapsed now created p.taskTimeout = false) :
    (unready C created now (EndsFor p created now)).Triple (fun _ => AtStage C created .waiting) (awaitReadiness p n r)
      (Concludes C p created now) := by
  refine .bind (.wait (asks_unready not_false (by simp))) fun clock => .given (fun _ _ h => h.1) fun hclock => ?_
  obtain rfl : clock = now := hclock
  refine Triple.weaken ?_ fun _ _ h => h.2
  have hsince : r.status.provisioningSince.getD r.createdAt = created := by rw [hshows.status.2, Option.getD_some]
  have hwhy (hlate : hasElapsed clock created p.provisioningWindow) :
      EndsFor p created clock .provisioningTimeout := ⟨hlate, by simp [htimely]⟩
  rw [hsince, hshows.id]
  cases hsandbox : r.status.sandbox with
  | none =>
      refine .ite (fun hlate => finish_concludes (.inr rfl) (hwhy hlate)) fun hearly => ?_
      exact provision_concludes hshows (by simpa using hearly)
  | some sandbox =>
      refine .bind (poll_unready sandbox) fun state => .given (fun _ _ h => h.1) fun hstate => ?_
      refine Triple.weaken ?_ fun _ _ h => h.2
      have hlook (hearly : ¬ hasElapsed clock created p.provisioningWindow) :
          (unready C created clock (EndsFor p created clock)).Triple (fun _ => AtStage C created .waiting)
            (if state = .absent then do
              let _ ← modify id Change.forgetSandbox
              requeue p r p.provisioningPoll
            else requeue p r p.provisioningPoll) (Concludes C p created clock) := by
        have hagain : (unready C created clock (EndsFor p created clock)).Triple _ (requeue p r p.provisioningPoll) _ :=
          requeue_concludes hshows.createdAt (by simpa using hearly)
        refine .ite (fun _ => .bind (modify_unready takes_forgetSandbox) fun _ => ?_) fun _ => hagain
        exact hagain.weaken fun _ _ h => h.2
      match state, hstate with
      | .ready address, hstate => exact absurd rfl (hstate address)
      | .exited _, _ | .unknown, _ | .absent, _ =>
          exact .ite (fun hlate => finish_concludes (.inr rfl) (hwhy hlate)) hlook

theorem startProvisioning_concludes (hid : r.id = id) (htimely : hasElapsed now now p.taskTimeout = false) :
    (unready C now now (EndsFor p now now)).Triple (fun _ => AtStage C now .fresh) (startProvisioning p n r)
      (Concludes C p now now) := by
  rw [startProvisioning, hid]
  refine .bind (modify_unready takes_startProvisioning) fun modified => .given (fun _ _ h => h.1) fun hshows => ?_
  simp only [hshows.status.1, if_true]
  exact (awaitReadiness_concludes hshows htimely).weaken fun _ _ h => h.2

theorem advance_concludes (hstage : stage = .fresh ∧ now = created ∨ stage = .waiting)
    (hshows : stage.Shows id created r) (htimely : hasElapsed now created p.taskTimeout = false) :
    (unready C created now (EndsFor p created now)).Triple (fun _ => AtStage C created stage) (advance p n r)
      (Concludes C p created now) := by
  unfold advance
  rcases hstage with ⟨rfl, rfl⟩ | rfl
  · have hpending : r.status.phase = .pending := hshows.status
    simp only [hpending]
    exact startProvisioning_concludes hshows.id htimely
  · simp only [hshows.status.1]
    exact awaitReadiness_concludes hshows htimely

theorem pass_concludes (hle : p.provisioningWindow ≤ p.taskTimeout)
    (hstage : stage = .fresh ∧ now = created ∨ stage = .waiting) :
    (unready C created now (EndsFor p created now)).Triple (fun _ => AtStage C created stage) (pass p n id)
      (Concludes C p created now) := by
  have hopen : stage = .fresh ∨ stage = .waiting := hstage.imp_left And.left
  refine .bind find_unready fun found => .given (fun _ _ h => h.1) fun hfound => ?_
  obtain ⟨t, rfl, hshows⟩ := hfound
  have hterminal := hshows.status.isTerminal hopen
  simp only [hterminal, Bool.false_eq_true, if_false]
  refine Triple.weaken ?_ fun _ _ h => h.2
  refine .bind (.wait (asks_unready not_false (by simp))) fun clock => ?_
  refine .given (fun _ _ h => h.1) fun hclock => Triple.weaken ?_ fun _ _ h => h.2
  obtain rfl : clock = now := hclock
  rw [hshows.createdAt, hshows.id]
  refine .ite (fun htimedOut => ?_) fun htimely => advance_concludes hstage hshows (by simpa using htimely)
  exact finish_concludes hopen ⟨hasElapsed_of_le hle htimedOut, (if_pos htimedOut).symm⟩

end Rule

end Reconcile

end SandboxTasks
