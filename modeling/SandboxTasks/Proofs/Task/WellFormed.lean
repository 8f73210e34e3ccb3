import SandboxTasks.Proofs.Concurrent.Written

namespace SandboxTasks

open Store

/-- What is recorded of the way of a task to its worker, and of its end, goes with its phase. -/
structure Status.Staged (s : Status) : Prop where
  pending : s.phase = .pending → s.provisioningSince = none ∧ s.sandbox = none ∧ s.readyAt = none ∧ s.assignedAt = none
  provisioning : s.phase = .provisioning → s.provisioningSince.isSome ∧ s.readyAt = none ∧ s.assignedAt = none
  ready : s.phase.IsReady → s.readyAt.isSome ∧ ∃ sandbox, s.sandbox = some sandbox ∧ sandbox.address.isSome
  assigned : s.phase.IsReady → (s.assignedAt.isSome ↔ s.phase = .running)
  ended : s.phase.isTerminal ↔ s.reason.isSome
  completed : s.completedAt.isSome ↔ s.reason.isSome
  reason : ∀ reason, s.reason = some reason → s.phase = reason.phase
  pullRequest : s.pullRequest.isSome → s.reason = some .completed ∨ s.reason = some .workerReportedFailure

/-- There is one condition of a kind at most, and those of getting ready and of cleaning up go with the phase. -/
structure Status.Marked (s : Status) : Prop where
  distinct : (s.conditions.map (·.kind)).Nodup
  announced : s.phase.IsReady → s.has .sandboxReady
  deleted : s.has .sandboxDeleted → s.phase.isTerminal
  notified : s.has .notified → s.has .sandboxDeleted

structure Status.WellFormed (s : Status) : Prop extends s.Staged, s.Marked

theorem Phase.IsReady.isTerminal_eq {p : Phase} (h : p.IsReady) : p.isTerminal = false := by
  cases p <;> first | rfl | cases h

theorem Phase.not_isReady {p : Phase} (h : p.isTerminal) : ¬ p.IsReady := fun hready => by
  rw [hready.isTerminal_eq] at h
  cases h

namespace Status

variable {s next : Status} {now : Instant}

theorem wellFormed_initial : initial.WellFormed where
  pending _ := ⟨rfl, rfl, rfl, rfl⟩
  provisioning h := nomatch h
  ready := False.elim
  assigned := False.elim
  ended := by decide
  completed := by decide
  reason _ h := nomatch h
  pullRequest h := nomatch h
  distinct := List.nodup_nil
  announced := False.elim
  deleted h := nomatch h
  notified h := nomatch h

namespace WellFormed

theorem open_eq (h : s.WellFormed) (hs : s.phase.isTerminal = false) :
    s.reason = none ∧ s.completedAt = none ∧ s.pullRequest = none := by
  have hreason : s.reason = none := by
    cases hreason : s.reason with
    | none => rfl
    | some reason => exact absurd (h.ended.mpr (by rw [hreason]; rfl)) (by simp [hs])
  refine ⟨hreason, ?_, ?_⟩
  · simpa [hreason] using h.completed
  · simpa [hreason] using h.pullRequest

theorem not_deleted (h : s.WellFormed) (hs : s.phase.isTerminal = false) : ¬ s.has .sandboxDeleted := fun he => by
  rw [h.deleted he] at hs
  cases hs

theorem of_conditions (h : s.WellFormed) {conditions : List Condition} (hnodup : (conditions.map (·.kind)).Nodup)
    (hkept : ∀ kind, kind ≠ .tokenIssued → Condition.find? conditions kind = s.condition? kind) :
    { s with conditions }.WellFormed := by
  have hhas (kind : Condition.Kind) (hkind : kind ≠ .tokenIssued) : { s with conditions }.has kind = s.has kind := by
    rw [has, has, condition?, hkept kind hkind]
  refine { h with distinct := hnodup, announced := ?_, deleted := ?_, notified := ?_ }
  · rw [hhas _ (by decide)]
    exact h.announced
  · rw [hhas _ (by decide)]
    exact h.deleted
  · rw [hhas _ (by decide), hhas _ (by decide)]
    exact h.notified

theorem noteWorker (h : s.WellFormed) : (Change.noteWorker now s).WellFormed := by
  unfold Change.noteWorker
  split
  · next hwaiting =>
      have hready : s.phase.IsReady := by rcases hwaiting with h | h <;> rw [h] <;> trivial
      obtain ⟨hreason, hcompleted, hpullRequest⟩ := h.open_eq hready.isTerminal_eq
      exact { h with
        pending := fun h => nomatch h
        provisioning := fun h => nomatch h
        ready := fun _ => h.ready hready
        assigned := fun _ => by simp
        ended := by simp [hreason, Phase.isTerminal]
        reason := fun reason he => by simp [hreason] at he
        announced := fun _ => h.announced hready
        deleted := fun he => absurd he (h.not_deleted hready.isTerminal_eq) }
  · exact h

theorem terminate (h : s.WellFormed) {reason : EndReason} {message : Option String}
    (ht : s.terminate? now reason message = some next) : next.WellFormed := by
  have hs : s.phase.isTerminal = false := by simpa using (Option.ite_none_left_eq_some.mp ht).1
  obtain ⟨-, -, hpullRequest⟩ := h.open_eq hs
  have hended := EndReason.isTerminal_phase reason
  have hnot : ¬ reason.phase.IsReady := Phase.not_isReady hended
  rw [Change.terminate_eq ht]
  exact { h with
    pending := fun he => by simp only at he; simp [he, Phase.isTerminal] at hended
    provisioning := fun he => by simp only at he; simp [he, Phase.isTerminal] at hended
    ready := fun he => absurd he hnot
    assigned := fun he => absurd he hnot
    ended := by simp [hended]
    completed := by simp
    reason := fun _ he => by cases he; rfl
    pullRequest := fun he => by simp [hpullRequest] at he
    announced := fun he => absurd he hnot
    deleted := fun _ => hended }

theorem reported (h : s.WellFormed) (hs : s.phase.isTerminal = false) (report : Report) :
    (Change.reported report now s).WellFormed := by
  have hend (reason : EndReason) (hreason : reason = .completed ∨ reason = .workerReportedFailure)
      (pullRequest : Option String) :
      { (s.terminate? now reason report.message).getD s with pullRequest }.WellFormed := by
    cases ht : s.terminate? now reason report.message with
    | none => exact absurd (Status.terminate_eq_none.mp ht) (by simp [hs])
    | some next =>
        have hnext : next.reason = some reason := by rw [Change.terminate_eq ht]
        rw [Option.getD_some]
        exact { h.terminate ht with pullRequest := fun _ => hnext ▸ hreason.imp (congrArg some) (congrArg some) }
  have hworker (progress : Option String) : { Change.noteWorker now s with progress }.WellFormed :=
    { h.noteWorker with }
  unfold Change.reported
  split
  · exact hworker _
  · exact hworker _
  · next hkind => exact hend _ (.inl (if_pos hkind)) _
  · next hkind => exact hend _ (.inr (if_neg (by simp [hkind]))) _

variable {r : Record}

theorem startProvisioning (h : r.status.WellFormed) (hnext : Change.startProvisioning now r = some next) :
    next.WellFormed := by
  obtain ⟨hphase, hnext⟩ := Option.ite_none_right_eq_some.mp hnext
  cases hnext
  have hopen : r.status.phase.isTerminal = false := by rw [hphase]; rfl
  obtain ⟨-, -, hready, hassigned⟩ := h.pending hphase
  obtain ⟨hreason, -⟩ := h.open_eq hopen
  exact { h with
    pending := fun he => nomatch he
    provisioning := fun _ => ⟨rfl, hready, hassigned⟩
    ready := False.elim
    assigned := False.elim
    ended := by simp [hreason, Phase.isTerminal]
    reason := fun _ he => by simp [hreason] at he
    announced := False.elim
    deleted := fun he => absurd he (h.not_deleted hopen) }

theorem sandbox (h : s.WellFormed) (hs : s.phase = .provisioning) (sandbox : Option SandboxRef) :
    { s with sandbox }.WellFormed :=
  { h with
    pending := fun he => by simp [hs] at he
    ready := fun he => by simp [hs, Phase.IsReady] at he }

theorem recordSandbox {sandbox : SandboxRef} (h : r.status.WellFormed)
    (hnext : Change.recordSandbox sandbox now r = some next) : next.WellFormed := by
  obtain ⟨⟨hphase, -⟩, hnext⟩ := Option.ite_none_right_eq_some.mp hnext
  cases hnext
  exact h.sandbox hphase _

theorem forgetSandbox (h : r.status.WellFormed) (hnext : Change.forgetSandbox now r = some next) :
    next.WellFormed := by
  obtain ⟨⟨hphase, -⟩, hnext⟩ := Option.ite_none_right_eq_some.mp hnext
  cases hnext
  exact h.sandbox hphase _

theorem markReady {address : String} (h : r.status.WellFormed) (hsandbox : r.status.sandbox.isSome)
    (hnext : Change.markReady address now r = some next) : next.WellFormed := by
  obtain ⟨hphase, rfl⟩ := Change.markReady_eq hnext
  have hopen : r.status.phase.isTerminal = false := by rw [hphase]; rfl
  obtain ⟨sandbox, hsandbox⟩ := Option.isSome_iff_exists.mp hsandbox
  obtain ⟨-, -, hassigned⟩ := h.provisioning hphase
  obtain ⟨hreason, -⟩ := h.open_eq hopen
  have hset (kind : Condition.Kind) : (Condition.find? (Condition.set now .sandboxReady true "Ready" none
      r.status.conditions) kind).isSome = (r.status.has kind || Condition.Kind.sandboxReady == kind) :=
    Condition.isSome_find?_set
  exact {
    pending := fun he => nomatch he
    provisioning := fun he => nomatch he
    ready := fun _ => ⟨rfl, { sandbox with address := some address }, congrArg (Option.map _) hsandbox, rfl⟩
    assigned := fun _ => by simp [hassigned]
    ended := by simp [hreason, Phase.isTerminal]
    completed := h.completed
    reason := fun _ he => by simp [hreason] at he
    pullRequest := h.pullRequest
    distinct := Condition.nodup_set h.distinct
    announced := fun _ => (hset _).trans (by simp)
    deleted := fun he => absurd (by simpa using (hset _).symm.trans he) (h.not_deleted hopen)
    notified := fun he => absurd (h.notified (by simpa using (hset _).symm.trans he)) (h.not_deleted hopen) }

theorem startAssigning (h : r.status.WellFormed) (hnext : Change.startAssigning now r = some next) :
    next.WellFormed := by
  obtain ⟨hphase, hnext⟩ := Option.ite_none_right_eq_some.mp hnext
  cases hnext
  have hready : r.status.phase.IsReady := hphase ▸ trivial
  obtain ⟨hreason, -⟩ := h.open_eq hready.isTerminal_eq
  exact { h with
    pending := fun he => nomatch he
    provisioning := fun he => nomatch he
    ready := fun _ => h.ready hready
    assigned := fun _ => (h.assigned hready).trans (by simp [hphase])
    ended := by simp [hreason, Phase.isTerminal]
    reason := fun _ he => by simp [hreason] at he
    announced := fun _ => h.announced hready
    deleted := fun he => absurd he (h.not_deleted hready.isTerminal_eq) }

theorem setCondition {kind : Condition.Kind} {holds : Bool} {reason : String} {message : Option String}
    (h : s.WellFormed) (hs : s.phase.isTerminal) (hkind : kind = .sandboxDeleted ∨ s.has .sandboxDeleted) :
    (s.setCondition now kind holds reason message).WellFormed :=
  { h with
    distinct := Condition.nodup_set h.distinct
    announced := fun hready => absurd hready (Phase.not_isReady hs)
    deleted := fun _ => hs
    notified := fun _ => by rcases hkind with rfl | hdeleted <;> simp [*] }

end WellFormed

end Status

variable {alone : Prop} {j : Job} {past : History} {r : Record} {change : Change} {now : Instant} {next : Status}

theorem Job.Makes.wellFormed {writes : Nat} (h : j.Makes writes change) (hpass : ¬ j.isPass)
    (hchange : change now r = some next) (hr : r.status.WellFormed) : next.WellFormed := by
  cases h with
  | report report =>
      obtain ⟨hs, rfl⟩ := Change.report_eq hchange
      exact hr.reported hs report
  | cancel => exact hr.terminate hchange
  | reserve =>
      obtain ⟨-, hnext⟩ := Option.ite_none_left_eq_some.mp hchange
      cases hnext
      exact hr.of_conditions (Condition.nodup_set hr.distinct) fun _ hkind => Condition.find?_set_of_ne hkind.symm
  | giveBack | release =>
      obtain ⟨-, hnext⟩ := Option.ite_none_right_eq_some.mp hchange
      cases hnext
      exact hr.of_conditions (Condition.nodup_remove hr.distinct) fun _ hkind => Condition.find?_remove_of_ne hkind.symm
  | pass => exact absurd rfl hpass

theorem Reconcile.Warranted.wellFormed {p : Policy} {n : Callback.Notifier} {q : Record}
    (h : Warranted alone p n past q change) (halone : alone) (hbecomes : q.Becomes alone r)
    (hchange : change now r = some next) (hr : r.status.WellFormed) : next.WellFormed := by
  cases h with
  | startProvisioning => exact hr.startProvisioning hchange
  | recordSandbox => exact hr.recordSandbox hchange
  | forgetSandbox => exact hr.forgetSandbox hchange
  | markReady _ hsandbox =>
      have hsame : r.status.sandbox = _ := (hbecomes.course halone).sandbox.trans hsandbox
      exact hr.markReady (by rw [hsame]; rfl) hchange
  | startAssigning => exact hr.startAssigning hchange
  | assigned =>
      obtain ⟨-, hnext⟩ := Option.ite_none_right_eq_some.mp hchange
      cases hnext
      exact { hr.noteWorker with }
  | assignmentFailed =>
      obtain ⟨-, hnext⟩ := Option.ite_none_right_eq_some.mp hchange
      cases hnext
      exact { hr with }
  | finish => exact hr.terminate hchange
  | sandboxDeleted _ hended =>
      obtain ⟨-, hnext⟩ := Option.ite_none_left_eq_some.mp hchange
      cases hnext
      exact hr.setCondition (hbecomes.isTerminal hended) (.inl rfl)
  | notified _ hended hdeleted =>
      obtain ⟨-, hnext⟩ := Option.ite_none_left_eq_some.mp hchange
      cases hnext
      exact hr.setCondition (hbecomes.isTerminal hended) (.inr (hbecomes.has .sandboxDeleted trivial hdeleted))

theorem Job.Grounds.wellFormed (h : j.Grounds alone past r change) (halone : j.isPass → alone)
    (hchange : change now r = some next) (hr : r.status.WellFormed) : next.WellFormed := by
  cases h with
  | plain hpass h => exact h.wellFormed hpass hchange hr
  | pass hpass h =>
      obtain ⟨-, -, -, hbecomes, h⟩ := h
      exact h.wellFormed (halone (hpass ▸ rfl)) hbecomes hchange hr

theorem kept_wellFormed : Kept (·.status.WellFormed) :=
  fun _ _ _ _ _ _ h _ hchange hr => h.wellFormed id hchange hr

theorem Pool.wellFormed_new {id : String} {C : Contract id} {s : C.State}
    (hnew : ∀ q, C.current s = some q → q.record.status = .initial) : (⟨s, []⟩ : Pool C).All (·.status.WellFormed) :=
  Pool.all_idle fun q hq => hnew q hq ▸ Status.wellFormed_initial

end SandboxTasks
