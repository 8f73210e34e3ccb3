import SandboxTasks.Proofs.Concurrent.Serial

namespace SandboxTasks

open Store

/-- Nothing is left to do for the task: it has ended, its sandbox is deleted and its outcome was told. -/
structure Status.Settled (s : Status) : Prop where
  ended : s.phase.isTerminal
  deleted : s.has .sandboxDeleted
  notified : s.has .notified

theorem Record.Becomes.settled {alone : Prop} {r q : Record} (h : r.Becomes alone q) (hr : r.status.Settled) :
    q.status.Settled :=
  ⟨h.isTerminal hr.ended, h.has .sandboxDeleted trivial hr.deleted, h.has .notified trivial hr.notified⟩

variable {id : String} {C : Contract id} {b c d : Pool C} {s : C.State} {t : Thread}

namespace Reconcile

variable {policy : Policy} {notifier : Callback.Notifier} {past : History} {alone : Prop}

theorem Closes.settled (h : Closes C alone past s (.ok .done)) {q : Versioned} (hq : C.current s = some q) :
    q.record.status.Settled := by
  obtain ⟨-, hgone⟩ | ⟨r, hr, hended, hdeleted, hnotified, -⟩ := h
  · cases hq.symm.trans hgone
  · exact (hr.becomes q hq).settled ⟨hended, hdeleted, hnotified⟩

theorem cleanup_settled {r : Record} (h : r.status.Settled) : cleanup notifier r = pure .done := by
  simp [cleanup, h.deleted, h.notified]

theorem pass_settled {next : (Operation.find id).Answer → Routine (Except Error Outcome)} {task : Versioned}
    (hpass : pass policy notifier id = Program.call (.find id) next) (h : task.record.status.Settled) :
    next (.ok (some task)) = .done (.ok .done) := by
  cases hpass
  change (if task.record.status.phase.isTerminal then cleanup notifier task.record else _ : Step Outcome) = pure .done
  rw [if_pos h.ended, cleanup_settled h]

end Reconcile

namespace Thread

/-- A pass that reads the task once and does nothing else. Unless it is dropped, it is done once it is answered. -/
inductive OnlyReads (C : Contract id) : Thread → Prop
  | waits {policy notifier next} (h : Reconcile.pass policy notifier id = Program.call (.find id) next) :
      OnlyReads C ⟨.pass policy notifier, [], .running (.call (.find id) next)⟩
  | dropped {policy notifier} : OnlyReads C ⟨.pass policy notifier, [], .dropped (.find id)⟩
  | lost {policy notifier} (answer) : OnlyReads C ⟨.pass policy notifier, [⟨.find id, answer⟩], .dropped (.find id)⟩
  | done {policy notifier} (found) :
      OnlyReads C ⟨.pass policy notifier, [⟨.find id, .ok found⟩], .running (.done (.ok .done))⟩
  | failed {policy notifier} (e) (h : ¬ C.Reliable) :
      OnlyReads C ⟨.pass policy notifier, [⟨.find id, .error e⟩], .running (.done (.error (.store e)))⟩

theorem OnlyReads.answered {j : Job} {past : History} {op : Operation} {next : op.Answer → Routine j.Result}
    {a : op.Answer} {s' : C.State} (h : OnlyReads C ⟨j, past, .running (.call op next)⟩) (hs : C.serves s op a s')
    (hsettled : ∀ q, C.current s = some q → q.record.status.Settled) :
    OnlyReads C ⟨j, ⟨op, a⟩ :: past, .running (next a)⟩ := by
  cases h with
  | waits hpass =>
      match a, hs with
      | .error e, hs =>
          cases hpass
          exact .failed e fun hreliable => hreliable.find _ _ _ hs
      | .ok none, hs =>
          cases hpass
          exact .done none
      | .ok (some task), hs =>
          have hdone := Reconcile.pass_settled hpass (hsettled task (C.find_ok hs).symm)
          rw [hdone]
          exact .done (some task)

end Thread

theorem Step.onlyReads (h : Step C Spares c d) (hsound : c.Sound)
    (hsettled : ∀ q, C.current c.state = some q → q.record.status.Settled)
    (hc : ∀ t ∈ c.threads, t.job.isPass → t.OnlyReads C) : ∀ t ∈ d.threads, t.job.isPass → t.OnlyReads C := by
  intro u hu hpass
  cases h.origin hsound u hu with
  | kept hmem => exact hc u hmem hpass
  | started j =>
      cases j with
      | pass policy notifier => exact .waits rfl
      | _ => cases hpass
  | answered hmem hs => exact (hc _ hmem hpass).answered hs hsettled
  | dropped hmem =>
      cases hc _ hmem hpass with
      | waits => exact .dropped
  | @lost j past op next a hmem =>
      cases hc _ hmem hpass with
      | waits => exact .lost a

theorem run_onlyReads (h : Run C Spares c d) (hsound : c.Sound)
    (hsettled : ∀ q, C.current c.state = some q → q.record.status.Settled)
    (hc : ∀ t ∈ c.threads, t.job.isPass → t.OnlyReads C) : ∀ t ∈ d.threads, t.job.isPass → t.OnlyReads C := by
  induction h with
  | refl => exact hc
  | tail hrun hs ih =>
      refine hs.onlyReads (run_sound hrun hsound) (fun q hq => ?_) ih
      obtain ⟨r, hr, hbecomes⟩ := (run_meanwhile hrun hsound).becomes q hq
      exact hbecomes.settled (hsettled r hr)

def Pool.anew (c : Pool C) : Pool C := ⟨c.state, c.threads.filter (!·.job.isPass)⟩

theorem Pool.Sound.anew (h : c.Sound) : c.anew.Sound := fun t ht => h t (List.mem_filter.mp ht).1

theorem Pool.not_isPass_anew (ht : t ∈ c.anew.threads) : ¬ t.job.isPass := by
  simpa using (List.mem_filter.mp ht).2

/-- Whatever happened before, new passes are started, and from then on the task is not created anew while all jobs and
other clients act as they like. A pass that says it is done leaves no task, or one that is settled; where it leaves a
task that is not, it asks to be called again or was halted. And if the task was settled to begin with, then all that the
passes do is to read it and to say that they are done. -/
theorem done_only_settled (hbefore : Run C (fun _ _ => True) ⟨s, []⟩ b) (hrun : Run C Spares b.anew c) :
    (∀ policy notifier past result, ⟨.pass policy notifier, past, .running (.done result)⟩ ∈ c.threads →
      (result = .ok .done → ∀ q, C.current c.state = some q → q.record.status.Settled) ∧
      ∀ q, C.current c.state = some q → ¬ q.record.status.Settled →
        (∃ after, result = .ok (.requeue after)) ∨ ∃ e, result = .error e) ∧
    ((∀ q, C.current b.state = some q → q.record.status.Settled) →
      ∀ t ∈ c.threads, t.job.isPass → t.OnlyReads C) := by
  have hb : b.anew.Sound := (run_sound hbefore (sound_idle s)).anew
  refine ⟨fun policy notifier past result ht => ?_, fun hsettled => ?_⟩
  · have hrule := run_keepsRule_of_job (j := .pass policy notifier) hrun hb
      (fun t ht hjob => absurd (hjob ▸ rfl) (Pool.not_isPass_anew ht)) _ ht rfl
    have hcloses : Reconcile.Closes C False past c.state result := hrule.closes
    have hdone (hresult : result = .ok .done) (q : Versioned) (hq : C.current c.state = some q) :
        q.record.status.Settled := by
      subst hresult
      exact hcloses.settled hq
    refine ⟨hdone, fun q hq hopen => ?_⟩
    match result with
    | .ok .done => exact absurd (hdone rfl q hq) hopen
    | .ok (.requeue after) => exact .inl ⟨after, rfl⟩
    | .error e => exact .inr ⟨e, rfl⟩
  · exact run_onlyReads hrun hb hsettled fun t ht hpass => absurd hpass (Pool.not_isPass_anew ht)

/-- A canceled task is cleaned up by one pass, and left alone by the next. -/
theorem done_only_settled_canceled : ∃ (c d : Pool (Memory.contract "task")) (past : History) (q : Versioned)
    (t : Thread),
    Run _ Spares ⟨Memory.holding Memory.sample 1, []⟩ c ∧
    ⟨.pass onceTried .off, past, .running (.done (.ok .done))⟩ ∈ c.threads ∧ Contract.current _ c.state = some q ∧
    q.record.status.phase = .canceled ∧ q.record.status.Settled ∧ Run _ Spares c.anew d ∧
    t ∈ d.threads ∧ t.job.isPass ∧ t.OnlyReads (Memory.contract "task") := by
  suffices h : ∃ (c d : Pool (Memory.contract "task")) (past : History) (q : Versioned) (t : Thread),
      (∀ others, Run _ others ⟨Memory.holding Memory.sample 1, []⟩ c) ∧
      ⟨.pass onceTried .off, past, .running (.done (.ok .done))⟩ ∈ c.threads ∧ Contract.current _ c.state = some q ∧
      q.record.status.phase = .canceled ∧ Run _ Spares c.anew d ∧ t ∈ d.threads ∧ t.job.isPass by
    obtain ⟨c, d, past, q, t, hc, hpast, hq, hphase, hd, ht, hpass⟩ := h
    have hsettled := ((done_only_settled .refl (hc Spares)).1 _ _ _ _ hpast).1 rfl
    exact ⟨c, d, past, q, t, hc _, hpast, hq, hphase, hsettled q hq, hd, ht, hpass,
      (done_only_settled (hc _) hd).2 hsettled t ht hpass⟩
  have hstores := Memory.stores "task" default
  refine ⟨_, _, _, _, _, fun others => .start .cancel rfl <|
    .answers [] (.round hstores rfl rfl rfl .refl) <| .start (.pass onceTried .off) rfl <|
    .answers [] (.head Memory.holding_find <| .head (Memory.holding_deleteClaim (.ok .deleted)) <|
      .round hstores rfl rfl rfl <| .round hstores rfl rfl rfl .refl) .refl,
    .head _, Memory.current_holding, rfl,
    .start (.pass onceTried .off) rfl <| .answer [] Memory.holding_find .refl, .head _, rfl⟩

end SandboxTasks
