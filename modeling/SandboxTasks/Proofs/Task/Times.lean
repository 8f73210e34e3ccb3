import SandboxTasks.Proofs.Sandbox.Leak
import SandboxTasks.Proofs.Task.WellFormed
import SandboxTasks.Proofs.Time.Clock

namespace SandboxTasks

open Store Contract

def Status.times (s : Status) : List Instant :=
  s.provisioningSince.toList ++ s.readyAt.toList ++ s.assignedAt.toList ++ s.completedAt.toList

def Record.times (r : Record) : List Instant := r.createdAt :: r.status.times

namespace Status

variable {s next : Status} {now : Instant}

/-- The times are the same, or one more was written. -/
def Dates (now : Instant) (s next : Status) : Prop := next.times = s.times ∨ next.times = s.times ++ [now]

theorem dates_noteWorker (h : s.WellFormed) : s.Dates now (Change.noteWorker now s) := by
  unfold Change.noteWorker
  split
  · next hwaiting =>
      have hready : s.phase.IsReady := by rcases hwaiting with h | h <;> rw [h] <;> trivial
      have hassigned : s.assignedAt = none := by
        have hiff := h.assigned hready
        rcases hwaiting with h | h <;> simpa [h] using hiff
      obtain ⟨-, hcompleted, -⟩ := h.open_eq hready.isTerminal_eq
      exact .inr (by simp [times, hassigned, hcompleted])
  · exact .inl rfl

theorem dates_terminate (h : s.WellFormed) {reason : EndReason} {message : Option String}
    (ht : s.terminate? now reason message = some next) : s.Dates now next := by
  have hs : s.phase.isTerminal = false := by simpa using (Option.ite_none_left_eq_some.mp ht).1
  obtain ⟨-, hcompleted, -⟩ := h.open_eq hs
  rw [Change.terminate_eq ht]
  exact .inr (by simp [times, hcompleted])

theorem dates_reported (h : s.WellFormed) (report : Report) : s.Dates now (Change.reported report now s) := by
  have hend (reason : EndReason) : s.Dates now ((s.terminate? now reason report.message).getD s) := by
    cases ht : s.terminate? now reason report.message with
    | none => exact .inl rfl
    | some next => exact dates_terminate h ht
  unfold Change.reported
  split
  · exact dates_noteWorker h
  · exact dates_noteWorker h
  · exact hend _
  · exact hend _

end Status

theorem Job.Makes.dates {j : Job} {writes : Nat} {change : Change} {now : Instant} {r : Record} {next : Status}
    (h : j.Makes writes change) (hchange : change now r = some next) (hr : r.status.WellFormed) :
    r.status.Dates now next := by
  cases h with
  | report report =>
      obtain ⟨-, rfl⟩ := Change.report_eq hchange
      exact Status.dates_reported hr report
  | cancel => exact Status.dates_terminate hr hchange
  | reserve =>
      obtain ⟨-, hnext⟩ := Option.ite_none_left_eq_some.mp hchange
      cases hnext
      exact .inl rfl
  | giveBack | release =>
      obtain ⟨-, hnext⟩ := Option.ite_none_right_eq_some.mp hchange
      cases hnext
      exact .inl rfl
  | pass _ _ _ hpass =>
      cases hpass with
      | startProvisioning =>
          obtain ⟨hphase, hnext⟩ := Option.ite_none_right_eq_some.mp hchange
          cases hnext
          obtain ⟨hsince, -, hready, hassigned⟩ := hr.pending hphase
          obtain ⟨-, hcompleted, -⟩ := hr.open_eq (by rw [hphase]; rfl)
          exact .inr (by simp [Status.times, hsince, hready, hassigned, hcompleted])
      | markReady =>
          obtain ⟨hphase, rfl⟩ := Change.markReady_eq hchange
          obtain ⟨-, hready, hassigned⟩ := hr.provisioning hphase
          obtain ⟨-, hcompleted, -⟩ := hr.open_eq (by rw [hphase]; rfl)
          exact .inr (by simp [Status.times, hready, hassigned, hcompleted])
      | assigned =>
          obtain ⟨-, hnext⟩ := Option.ite_none_right_eq_some.mp hchange
          cases hnext
          exact Status.dates_noteWorker hr
      | finish => exact Status.dates_terminate hr hchange
      | recordSandbox | forgetSandbox | startAssigning | assignmentFailed =>
          obtain ⟨-, hnext⟩ := Option.ite_none_right_eq_some.mp hchange
          cases hnext
          exact .inl rfl
      | sandboxDeleted | notified =>
          obtain ⟨-, hnext⟩ := Option.ite_none_left_eq_some.mp hchange
          cases hnext
          exact .inl rfl

variable {id : String} {C : Contract id} {others : C.State → C.State → Prop} {c d : Pool C} {clock : Clock C}

/-- All that the thread last saw written was read from the clock before, also before the time it was told last. -/
structure Thread.Punctual (clock : Clock C) (s : C.State) (t : Thread) : Prop where
  seen : ∀ r, t.past.lastSeen? = some r → ∀ x ∈ r.record.times, x ≤ clock.reading s
  told : ∀ now, t.past.head? = some ⟨.now, now⟩ → now ≤ clock.reading s ∧
    ∀ r, t.past.lastSeen? = some r → ∀ x ∈ r.record.times, x ≤ now

structure Pool.Punctual (clock : Clock C) (c : Pool C) : Prop where
  sorted : ∀ q, C.current c.state = some q → q.record.times.Pairwise (· ≤ ·)
  gone : ∀ q, C.current c.state = some q → ∀ x ∈ q.record.times, x ≤ clock.reading c.state
  threads : ∀ t ∈ c.threads, t.Punctual clock c.state

theorem Thread.Punctual.carry {t : Thread} {s s' : C.State} (h : t.Punctual clock s)
    (hs : clock.reading s ≤ clock.reading s') : t.Punctual clock s' where
  seen r hr x hx := (h.seen r hr x hx).trans hs
  told now hnow := ⟨(h.told now hnow).1.trans hs, (h.told now hnow).2⟩

theorem Thread.Punctual.answered {j : Job} {past : History} {op : Operation} {a : op.Answer}
    {mode mode' : Mode j.Result} {s s' : C.State} (h : Punctual clock s ⟨j, past, mode⟩) (hmay : j.May id past op)
    (hs : C.serves s op a s') (hgone : ∀ q, C.current s' = some q → ∀ x ∈ q.record.times, x ≤ clock.reading s') :
    Punctual clock s' ⟨j, ⟨op, a⟩ :: past, mode'⟩ where
  seen r hr x hx := by
    rw [History.lastSeen?_cons, Option.or_eq_some_iff] at hr
    rcases hr with hshown | ⟨-, hseen⟩
    · exact hgone r (current_of_shows hmay hs hshown) x hx
    · exact (h.seen r hseen x hx).trans (clock.forward hs)
  told now hnow := by
    cases hnow
    obtain ⟨hbefore, hafter⟩ := clock.told hs
    exact ⟨hafter, fun r hr x hx => (h.seen r hr x hx).trans hbefore⟩

theorem Orderly.reading_le (h : Orderly C others c d) : clock.reading c.state ≤ clock.reading d.state := by
  cases h.foreign with
  | idle h => rw [h]
  | other hs => exact clock.forward hs
  | job _ _ _ hs => exact clock.forward hs

theorem Orderly.punctual (h : Orderly C others c d)
    (hothers : ∀ s s', others s s' → Spares (C.current s) (C.current s')) (hc : c.SerialInvariant)
    (hall : c.All (·.status.WellFormed)) (ht : c.Punctual clock) : d.Punctual clock := by
  have hforward : clock.reading c.state ≤ clock.reading d.state := h.reading_le
  have hrecord (q : Versioned) (hq : C.current d.state = some q) :
      q.record.times.Pairwise (· ≤ ·) ∧ ∀ x ∈ q.record.times, x ≤ clock.reading d.state := by
    obtain hsame | ⟨t, change, now, r, hwritten⟩ := h.written hothers hc hq
    · exact ⟨ht.sorted q hsame, fun x hx => (ht.gone q hsame x hx).trans hforward⟩
    · obtain ⟨hnow, hbefore⟩ := (ht.threads t hwritten.mem).told now hwritten.clock
      have hcreated : q.record.createdAt = r.record.createdAt := by rw [hwritten.record]
      have hdates := hwritten.grounds.makes.dates hwritten.changes (hall.current r hwritten.before)
      have hsorted := ht.sorted r hwritten.before
      have hgone (x : Instant) (hx : x ∈ r.record.times) : x ≤ clock.reading d.state :=
        (ht.gone r hwritten.before x hx).trans hforward
      have hbefore := hbefore r hwritten.seen
      rcases hdates with hsame | hadded
      · have htimes : q.record.times = r.record.times := by rw [Record.times, hsame, hcreated, Record.times]
        exact htimes ▸ ⟨hsorted, hgone⟩
      · have htimes : q.record.times = r.record.times ++ [now] := by rw [Record.times, hadded, hcreated]; rfl
        rw [htimes]
        refine ⟨List.pairwise_append.mpr ⟨hsorted, List.pairwise_singleton .., fun x hx y hy => ?_⟩, fun x hx => ?_⟩
        · exact List.mem_singleton.mp hy ▸ hbefore x hx
        · rcases List.mem_append.mp hx with hx | hx
          · exact hgone x hx
          · exact List.mem_singleton.mp hx ▸ hnow.trans hforward
  have hgone (q : Versioned) (hq : C.current d.state = some q) := (hrecord q hq).2
  refine ⟨fun q hq => (hrecord q hq).1, hgone, fun u hu => ?_⟩
  cases h.origin hc.sound hc.serial u hu with
  | kept hmem => exact (ht.threads u hmem).carry hforward
  | started j => exact ⟨fun _ hr => (nomatch hr), fun _ hnow => nomatch hnow⟩
  | answered hmem hs => exact (ht.threads _ hmem).answered ((hc.sound _ hmem).may ⟨_, rfl⟩) hs hgone
  | dropped hmem =>
      obtain ⟨hseen, htold⟩ := (ht.threads _ hmem).carry hforward
      exact ⟨hseen, htold⟩
  | lost hmem hs => exact (ht.threads _ hmem).answered ((hc.sound _ hmem).may ⟨_, rfl⟩) hs hgone

theorem run_punctual (h : OrderlyRun C others c d)
    (hothers : ∀ s s', others s s' → Spares (C.current s) (C.current s')) (hc : c.SerialInvariant)
    (hall : c.All (·.status.WellFormed)) (ht : c.Punctual clock) : d.Punctual clock := by
  induction h with
  | refl => exact ht
  | tail hrun hs ih =>
      exact hs.punctual hothers (run_serialInvariant hrun hothers hc) (run_all kept_wellFormed hrun hothers hc hall) ih

/-- Passes take turns at a new task, each of them dropped wherever it may be, and all other jobs act in between, with a
clock that does not go back. What is recorded of the task is well-formed at any time, the sandbox is the one named for
it, and the times stand in their order. -/
theorem run_wellFormed {K : Claims C} {s : C.State} {r : Versioned} (clock : Clock C)
    (hrun : OrderlyRun C K.Spared ⟨s, []⟩ c) (hstart : C.current s = some r) (hnew : r.record.status = .initial)
    (hcreated : r.record.createdAt ≤ clock.reading s) :
    ∃ q, C.current c.state = some q ∧ q.record.status.WellFormed ∧
      (∀ sandbox, q.record.status.sandbox = some sandbox → sandbox.claim = TaskId.claimName id) ∧
      q.record.times.Pairwise (· ≤ ·) := by
  have hspared (s s' : C.State) (h : K.Spared s s') := h.spares
  have htimes : r.record.times = [r.record.createdAt] := by rw [Record.times, hnew]; rfl
  have hsame (q : Versioned) (hq : C.current s = some q) : q = r := Option.some.inj (hq.symm.trans hstart)
  have hall : (⟨s, []⟩ : Pool C).All (·.status.WellFormed) :=
    Pool.wellFormed_new fun q hq => (hsame q hq).symm ▸ hnew
  have hpunctual : (⟨s, []⟩ : Pool C).Punctual clock := by
    refine ⟨fun q hq => ?_, fun q hq => ?_, fun _ ht => nomatch ht⟩
    · rw [hsame q hq, htimes]
      exact List.pairwise_singleton ..
    · rw [hsame q hq, htimes]
      exact List.forall_mem_singleton.mpr hcreated
  obtain ⟨q, hq⟩ := run_current hrun (fun _ _ ho => ho.1) (serialInvariant_idle s) (Option.isSome_iff_exists.mpr ⟨r, hstart⟩)
  refine ⟨q, hq, (run_all kept_wellFormed hrun hspared (serialInvariant_idle s) hall).current q hq, ?_, ?_⟩
  · exact ((run_tracksClaim hrun (serialInvariant_idle s) (Pool.tracksClaim_new hstart hnew)).record q hq).named
  · exact (run_punctual hrun hspared (serialInvariant_idle s) hall hpunctual).sorted q hq

/-- A task is given its sandbox a second after it was created, and is canceled another second later. -/
theorem run_wellFormed_canceled : ∃ (C : Contract "task") (K : Claims C) (clock : Clock C) (s : C.State) (c : Pool C)
    (q : Versioned), OrderlyRun C K.Spared ⟨s, []⟩ c ∧ clock.reading s = default ∧ C.current c.state = some q ∧
    q.record.status.phase = .canceled ∧ q.record.status.sandbox.isSome ∧ q.record.status.WellFormed ∧
    (∀ sandbox, q.record.status.sandbox = some sandbox → sandbox.claim = TaskId.claimName "task") ∧
    q.record.times = [default, .ofNanos 1000000000, .ofNanos 2000000000] ∧ q.record.times.Pairwise (· ≤ ·) := by
  suffices h : ∃ (c : Pool (((Memory.contract "task").beside Clock.Serves).beside Sandbox.Memory.Serves))
      (q : Versioned),
      OrderlyRun _ (Sandbox.Memory.beside _).Spared ⟨((Memory.holding Memory.sample 1, default), .empty), []⟩ c ∧
      Contract.current _ c.state = some q ∧ q.record.status.phase = .canceled ∧ q.record.status.sandbox.isSome ∧
      q.record.times = [default, .ofNanos 1000000000, .ofNanos 2000000000] by
    obtain ⟨c, q, hrun, hq, hphase, hsandbox, htimes⟩ := h
    obtain ⟨q', hq', hwellFormed, hnamed, hsorted⟩ :=
      run_wellFormed (Clock.besideStore (Memory.contract "task")).beside hrun Memory.current_holding rfl (le_refl _)
    cases hq.symm.trans hq'
    exact ⟨_, _, (Clock.besideStore _).beside, _, c, q, hrun, rfl, hq, hphase, hsandbox, hwellFormed, hnamed, htimes,
      hsorted⟩
  have hnow {r : Record} {n : Nat} {shown : Instant} {m : Sandbox.Memory} (now : Instant) (h : shown ≤ now) :
      (((Memory.contract "task").beside Clock.Serves).beside Sandbox.Memory.Serves).serves
        ((Memory.holding r n, shown), m) .now now ((Memory.holding r n, now), m) := ⟨⟨rfl, h, rfl⟩, rfl⟩
  have hstores (now : Instant) (m : Sandbox.Memory) :=
    ((Memory.stores "task" now).beside (Clock.stores now)).beside (Sandbox.Memory.stores m now)
  refine ⟨_, _, .start (.pass onceTried .off) rfl (fun _ => rfl) <|
    .answers [] (.head (serves_beside (serves_beside Memory.holding_find rfl) rfl) <|
      .head (hnow (.ofNanos 1000000000) (by decide)) <| .round (hstores _ _) rfl rfl rfl <| .head (hnow _ le_rfl) <|
      .head (serves_beside (serves_beside (Memory.holding_provision _) rfl) ⟨default, rfl⟩) <|
      .round (hstores _ _) rfl rfl rfl .refl) <|
    .start .cancel rfl (fun h => nomatch h) <|
    .answers [] (.head (serves_beside (serves_beside Memory.holding_find rfl) rfl) <|
      .head (hnow (.ofNanos 2000000000) (by decide)) <|
      .head (serves_beside (serves_beside (Memory.holding_swap rfl) rfl) rfl) .refl) .refl,
    Memory.current_holding, rfl, rfl, rfl⟩

end SandboxTasks
