import SandboxTasks.Config.Basic
import SandboxTasks.Proofs.Concurrent.Pass
import SandboxTasks.Proofs.Reconcile.Unready
import SandboxTasks.Proofs.Store.Memory

namespace SandboxTasks.Reconcile

open Store

/-- A task that is looked after: the jobs of others, the clock, the passes that were made before, and what the present
one has done and has left to do. -/
structure PassLoop {id : String} (C : Contract id) where
  pool : Pool C
  clock : Instant
  passes : Nat
  past : History
  pass : Routine (Except Error Outcome)

variable {id : String} {C : Contract id} {p : Policy} {n : Callback.Notifier} {created : Instant} {stage : Stage}

namespace PassLoop

def start (C : Contract id) (p : Policy) (n : Callback.Notifier) (s : C.State) (created : Instant) : PassLoop C :=
  ⟨⟨s, []⟩, created, 0, [], Reconcile.pass p n id⟩

inductive Step (p : Policy) (n : Callback.Notifier) : PassLoop C → PassLoop C → Prop
  | others {pool pool' clock passes past rest}
      (h : SandboxTasks.Step C (fun before after => after = before) pool pool')
      (hquiet : ∀ t ∈ pool'.threads, t.job.isQuiet) :
      Step p n ⟨pool, clock, passes, past, rest⟩ ⟨pool', clock, passes, past, rest⟩
  | own {s s' ts clock passes past op next} {a : op.Answer} (h : C.serves s op a s') (htold : Told clock op a) :
      Step p n ⟨⟨s, ts⟩, clock, passes, past, .call op next⟩ ⟨⟨s', ts⟩, clock, passes, ⟨op, a⟩ :: past, next a⟩
  | again {pool clock passes past d} :
      Step p n ⟨pool, clock, passes, past, .done (.ok (.requeue d))⟩
        ⟨pool, clock.later d, passes + 1, [], Reconcile.pass p n id⟩

def Run (p : Policy) (n : Callback.Notifier) : PassLoop C → PassLoop C → Prop := Relation.ReflTransGen (Step p n)

end PassLoop

def after (created : Instant) (nanos : Nat) : Instant := ⟨created.nanos + nanos, created.leap⟩

theorem later_after (nanos : Nat) (d : Duration) :
    (after created nanos).later d = after created (nanos + d.toNanos) := by
  simp [after, Instant.later, Int.add_assoc]

theorem toNanos_elapsed {nanos : Nat} (h : nanos ≤ Duration.greatest.toNanos) :
    ((after created nanos).elapsed created).toNanos = nanos := by
  simp only [Instant.elapsed, Instant.distance, after, Bool.and_not_self, Bool.false_and]
  rw [Duration.ofNanos, Duration.toNanos_normal]
  simp
  omega

theorem hasElapsed_after {nanos : Nat} {d : Duration} (h : nanos ≤ Duration.greatest.toNanos) :
    hasElapsed (after created nanos) created d ↔ d.toNanos ≤ nanos := by
  rw [hasElapsed, decide_eq_true_iff, Duration.le_iff, toNanos_elapsed h]

/-- When a pass is made: at every multiple of the poll interval, up to the deadline. -/
def due (p : Policy) (passes : Nat) : Nat := min (passes * p.provisioningPoll.toNanos) p.taskTimeout.toNanos

theorem due_le (passes : Nat) : due p passes ≤ Duration.greatest.toNanos :=
  (min_le_right _ _).trans (Duration.toNanos_le_greatest _)

theorem early_of_open {passes : Nat} (hle : p.provisioningWindow ≤ p.taskTimeout)
    (h : hasElapsed (after created (due p passes)) created p.provisioningWindow = false) :
    passes * p.provisioningPoll.toNanos < p.provisioningWindow.toNanos := by
  have hdue : ¬ p.provisioningWindow.toNanos ≤ due p passes := by
    rw [← hasElapsed_after (due_le passes), h]
    decide
  rw [Duration.le_iff] at hle
  simp only [due] at hdue
  omega

theorem due_succ {passes : Nat} (hle : p.provisioningWindow ≤ p.taskTimeout)
    (hearly : passes * p.provisioningPoll.toNanos < p.provisioningWindow.toNanos) :
    due p passes + (p.provisioningPoll.shorter (p.taskTimeout.minus
      ((after created (due p passes)).elapsed created))).toNanos = due p (passes + 1) := by
  rw [Duration.toNanos_shorter, Duration.toNanos_minus, toNanos_elapsed (due_le passes)]
  rw [Duration.le_iff] at hle
  simp only [due, Nat.succ_mul]
  omega

theorem AtStage.step {c d : Pool C} (h : AtStage C created stage c.state)
    (hs : SandboxTasks.Step C (fun before after => after = before) c d) (hsound : c.Sound)
    (hquiet : ∀ t ∈ c.threads, t.job.isQuiet) : AtStage C created stage d.state := by
  obtain ⟨t, ht, hshows⟩ := h
  cases hs with
  | start => exact ⟨t, ht, hshows⟩
  | other _ ho => exact ⟨t, ho.trans ht, hshows⟩
  | move hm =>
      cases hm with
      | drop => exact ⟨t, ht, hshows⟩
      | answer hserve | lose hserve =>
          have hthread := hsound _ (List.mem_append_right _ (.head _))
          have hjob := hquiet _ (List.mem_append_right _ (.head _))
          cases effect_of_serves hthread.knows (hthread.conforms _ rfl).1 hserve with
          | quiet hview => exact ⟨t, by rw [Contract.current, hview]; exact ht, hshows⟩
          | wrote hbefore _ hmakes hchange hafter hrecord =>
              cases hbefore.symm.trans ht
              refine ⟨_, hafter, ?_⟩
              rw [hrecord]
              exact ⟨hshows.id, hshows.createdAt, hshows.status.quiet hjob hmakes hchange⟩

theorem Concludes.carry {now : Instant} {past : History} {s s' : C.State} {result : Except Error Outcome}
    (h : (Rule.unready C created now (EndsFor p created now)).Settles (Concludes C p created now) past s result)
    (hs : ∀ stage, AtStage C created stage s → AtStage C created stage s') :
    (Rule.unready C created now (EndsFor p created now)).Settles (Concludes C p created now) past s' result := by
  match result, h with
  | .ok (.requeue d), ⟨hopen, hstage, hd⟩ => exact ⟨hopen, hs _ hstage, hd⟩
  | .ok .done, ⟨reason, hwhy, hstage⟩ | .error (.provision e), ⟨reason, hwhy, hstage⟩ => exact ⟨reason, hwhy, hs _ hstage⟩
  | .error (.store e), _ => trivial

/-- Every pass but the present one fell within the window, and this one proceeds as a pass at its time does. -/
structure PassLoop.Sound (p : Policy) (n : Callback.Notifier) (created : Instant) (v : PassLoop C) : Prop where
  pool : v.pool.Sound
  quiet : ∀ t ∈ v.pool.threads, t.job.isQuiet
  clock : v.clock = after created (due p v.passes)
  early : ∀ k < v.passes, k * p.provisioningPoll.toNanos < p.provisioningWindow.toNanos
  upholds : Upholds (Rule.unready C created v.clock (EndsFor p created v.clock)).around (fun _ _ op => ¬ op.Assigns)
    ((Rule.unready C created v.clock (EndsFor p created v.clock)).Settles (Concludes C p created v.clock)) v.past
    v.pool.state v.pass
  halts : Conforms ((Job.pass p n).May id) (fun past result => ∀ e, result = .error (.store e) → past.GaveUp rounds) v.past
    v.pass

namespace PassLoop

variable {v w : PassLoop C}

theorem sound_start {s : C.State} (hle : p.provisioningWindow ≤ p.taskTimeout) (h : AtStage C created .fresh s) :
    (start C p n s created).Sound p n created where
  pool := sound_idle s
  quiet _ ht := nomatch ht
  clock := by simp [start, after, due]
  early _ hk := absurd hk (Nat.not_lt_zero _)
  upholds := Rule.pass_concludes hle (.inl ⟨rfl, rfl⟩) [] s h
  halts := pass_halts

theorem Step.sound (hle : p.provisioningWindow ≤ p.taskTimeout) (h : Step p n v w) (hv : v.Sound p n created) :
    w.Sound p n created := by
  obtain ⟨hpool, hquiet, hclock, hearly, hupholds, hhalts⟩ := hv
  cases h with
  | others hs hquiet' =>
      have hholds (stage : Stage) (h : AtStage C created stage _) := h.step hs hpool hquiet
      refine ⟨hs.sound hpool, hquiet', hclock, hearly, ?_, hhalts⟩
      exact hupholds.carry (fun _ h => Concludes.carry h hholds) fun _ _ _ _ h₁ stage h => h₁ stage (hholds stage h)
  | own hserve htold =>
      refine ⟨fun t ht => (hpool t ht).carry hserve, hquiet, hclock, hearly, ?_, hhalts.2 _ (C.fits hserve)⟩
      exact (hupholds _ fun _ h => h).2 _ _ ⟨hserve, htold⟩
  | @again pool clock passes past d =>
      obtain ⟨hearly', hstage, hd⟩ := hupholds
      obtain rfl : clock = after created (due p passes) := hclock
      have hd : d = p.provisioningPoll.shorter (p.taskTimeout.minus
        ((after created (due p passes)).elapsed created)) := hd
      have hnow : passes * p.provisioningPoll.toNanos < p.provisioningWindow.toNanos := early_of_open hle hearly'
      refine ⟨hpool, hquiet, ?_, fun k hk => ?_, Rule.pass_concludes hle (.inr rfl) [] _ hstage, pass_halts⟩
      · rw [later_after, hd, due_succ hle hnow]
      · rcases Nat.lt_succ_iff_lt_or_eq.mp hk with hk | rfl
        · exact hearly k hk
        · exact hnow

theorem Run.sound (hle : p.provisioningWindow ≤ p.taskTimeout) (h : Run p n v w) (hv : v.Sound p n created) :
    w.Sound p n created := by
  induction h with
  | refl => exact hv
  | tail _ hs ih => exact hs.sound hle ih

end PassLoop

/-- The task has ended: because its window was over, if some look falls between that and the deadline, and because of
its deadline otherwise. -/
def TimedOut (p : Policy) (s : Status) : Prop :=
  s.phase = .timedOut ∧
    (s.reason = some .provisioningTimeout ∧
        (∃ k, p.provisioningWindow.toNanos ≤ k * p.provisioningPoll.toNanos ∧
          k * p.provisioningPoll.toNanos < p.taskTimeout.toNanos) ∨
      s.reason = some .taskTimeout ∧ ∀ k, p.provisioningWindow.toNanos ≤ k * p.provisioningPoll.toNanos →
        p.taskTimeout.toNanos ≤ k * p.provisioningPoll.toNanos)

theorem timedOut_of_endsFor {passes : Nat} {s : Status} {reason : EndReason}
    (hearly : ∀ k < passes, k * p.provisioningPoll.toNanos < p.provisioningWindow.toNanos)
    (hwhy : EndsFor p created (after created (due p passes)) reason) (h : (Stage.ended reason).Of created s) :
    TimedOut p s := by
  obtain ⟨hlate, hverdict⟩ := hwhy
  obtain ⟨hphase, hreason⟩ := h
  have hwindow : p.provisioningWindow.toNanos ≤ due p passes := (hasElapsed_after (due_le passes)).mp hlate
  have hdeadline : hasElapsed (after created (due p passes)) created p.taskTimeout ↔
      p.taskTimeout.toNanos ≤ due p passes := hasElapsed_after (due_le passes)
  refine ⟨hphase, ?_⟩
  rw [hreason, hverdict]
  -- The pass that ends the task is the first outside its window: all looks before it were too early.
  by_cases htimedOut : hasElapsed (after created (due p passes)) created p.taskTimeout
  · refine .inr ⟨by rw [if_pos htimedOut], fun k hk => ?_⟩
    have hpasses : passes ≤ k := by
      by_contra hlt
      exact absurd hk (not_le.mpr (hearly k (by omega)))
    have hle := hdeadline.mp htimedOut
    exact (hle.trans (min_le_left _ _)).trans (Nat.mul_le_mul_right _ hpasses)
  · refine .inl ⟨by rw [if_neg htimedOut], passes, hwindow.trans (min_le_left _ _), ?_⟩
    rw [hdeadline, due] at htimedOut
    omega

theorem toNanos_ofSeconds (s : Nat) :
    (Duration.ofSeconds s).toNanos = min (s * 1000000000) Duration.greatest.toNanos := by
  rw [Duration.ofSeconds, Duration.toNanos_normal, Nat.add_zero]

theorem policy_of_valid {c : Config} (h : c.invalid? = none) (api : String) :
    0 < (c.policy api).provisioningPoll.toNanos ∧ (c.policy api).provisioningWindow ≤ (c.policy api).taskTimeout := by
  unfold Config.invalid? at h
  split at h
  · cases h
  · next hfind =>
      have hpositive := List.find?_eq_none.mp hfind
      have hpoll : c.provisioning.pollSeconds ≠ 0 := by
        simpa using
          hpositive ("provisioning.pollIntervalSeconds", c.provisioning.pollSeconds) (by simp [Config.positives])
      have hwindow : c.provisioning.windowSeconds < c.running.timeoutSeconds := by
        by_contra hle
        simp only [not_lt.mp hle, if_true] at h
        split at h <;> cases h
      have hgreatest : 0 < Duration.greatest.toNanos := by decide
      simp only [Config.policy, Duration.le_iff, toNanos_ofSeconds]
      omega

/-- A task whose sandbox is never ready is assigned to nobody. It is passed over within its window and at most once
after, and that pass ends it; it is ended for the window if some look falls between the window and the deadline, and
for the deadline otherwise. A pass comes to nothing only if the store failed it or others wrote before it five times
over. -/
theorem unready_times_out {c : Config} {api : String} {n : Callback.Notifier} {s : C.State} {t : Versioned}
    {v : PassLoop C} (hvalid : c.invalid? = none) (ht : C.current s = some t) (hid : t.record.id = id)
    (hnew : t.record.status = .initial)
    (h : PassLoop.Run (c.policy api) n (.start C (c.policy api) n s t.record.createdAt) v) :
    (∀ op next, v.pass = .call op next → ¬ op.Assigns) ∧
    (0 < (c.policy api).provisioningPoll.toNanos ∧
      ∀ k < v.passes, k * (c.policy api).provisioningPoll.toNanos < (c.policy api).provisioningWindow.toNanos) ∧
    ∀ result, v.pass = .done result → match result with
      | .ok (.requeue _) =>
          v.passes * (c.policy api).provisioningPoll.toNanos < (c.policy api).provisioningWindow.toNanos
      | .ok .done | .error (.provision _) =>
          ∃ q, C.current v.pool.state = some q ∧ TimedOut (c.policy api) q.record.status
      | .error (.store _) => v.past.GaveUp rounds := by
  obtain ⟨hpoll, hle⟩ := policy_of_valid hvalid api
  have hstart : AtStage C t.record.createdAt .fresh s := ⟨t, ht, hid, rfl, by rw [hnew]; rfl⟩
  obtain ⟨-, -, hclock, hearly, hupholds, hhalts⟩ := h.sound hle (PassLoop.sound_start hle hstart)
  refine ⟨fun op next hpass => ?_, ⟨hpoll, hearly⟩, fun result hpass => ?_⟩
  · rw [hpass] at hupholds
    exact (hupholds _ fun _ h => h).1
  · rw [hpass] at hhalts
    rw [hpass, hclock] at hupholds
    match result, hupholds with
    | .ok (.requeue d), ⟨hopen, _, _⟩ => exact early_of_open hle hopen
    | .ok .done, ⟨reason, hwhy, q, hq, hshows⟩ | .error (.provision e), ⟨reason, hwhy, q, hq, hshows⟩ =>
        exact ⟨q, hq, timedOut_of_endsFor hearly hwhy hshows.status⟩
    | .error (.store e), _ => exact hhalts e rfl

theorem PassLoop.Run.own {s s' : C.State} {ts clock passes past op next} {a : op.Answer} {v : PassLoop C}
    (h : C.serves s op a s') (htold : Told clock op a)
    (rest : Run p n ⟨⟨s', ts⟩, clock, passes, ⟨op, a⟩ :: past, next a⟩ v) :
    Run p n ⟨⟨s, ts⟩, clock, passes, past, .call op next⟩ v :=
  .head (.own h htold) rest

theorem PassLoop.Run.answers {s s' : C.State} {ts clock passes past past' rest rest'} {v : PassLoop C}
    (h : AnsweredRun (fun s op a s' => C.serves s op a s' ∧ Told clock op a) s past rest s' past' rest')
    (hrun : Run p n ⟨⟨s', ts⟩, clock, passes, past', rest'⟩ v) : Run p n ⟨⟨s, ts⟩, clock, passes, past, rest⟩ v := by
  induction h with
  | refl => exact hrun
  | head h _ ih => exact .own h.1 h.2 (ih hrun)

theorem stores_told {σ : Type} (clock : Instant) (state : Record → Nat → σ) :
    Stores (fun _ op a _ => Told clock op a) clock state :=
  ⟨fun _ _ => trivial, fun _ _ => rfl, fun _ _ _ _ => trivial⟩

open Memory

def brief : Config := { Config.default with provisioning := ⟨1, 1⟩, running := ⟨30, 2⟩ }

def sparse : Config := { Config.default with provisioning := ⟨60, 1000⟩, running := ⟨5, 600⟩ }

def refused (c : Config) : PassLoop (contract "task") := .start _ (c.policy "") .off (holding sample 1) default

theorem run_brief : ∃ v, PassLoop.Run (brief.policy "") .off (refused brief) v ∧ v.pass = .done (.ok .done) := by
  have hstores (clock : Instant) := (stores "task" clock).and (stores_told clock holding)
  exact ⟨_, .answers (.read (hstores _) rfl <| .round (hstores _) rfl rfl rfl <| .head ⟨holding_now _, rfl⟩ <|
      .head ⟨holding_provision (.error (.rejected "busy")), trivial⟩ <| .head ⟨holding_now _, rfl⟩ .refl) <|
    .head .again <| PassLoop.Run.answers (.read (hstores _) rfl <| .head ⟨holding_now _, rfl⟩ <|
      .round (hstores _) rfl rfl rfl <| .head ⟨holding_deleteClaim (.ok .absent), trivial⟩ <|
      .round (hstores _) rfl rfl rfl <| .round (hstores _) rfl rfl rfl .refl) .refl, rfl⟩

theorem unready_times_out_brief : ∃ v q, PassLoop.Run (brief.policy "") .off (refused brief) v ∧
    (contract "task").current v.pool.state = some q ∧ q.record.status.reason = some .provisioningTimeout := by
  obtain ⟨v, hrun, hdone⟩ := run_brief
  have hcurrent : (contract "task").current (holding sample 1) = some ⟨sample, "1"⟩ := current_holding
  obtain ⟨-, -, hends⟩ := unready_times_out (by decide) hcurrent rfl rfl hrun
  obtain ⟨q, hq, -, hreason | hreason⟩ := hends _ hdone
  · exact ⟨v, q, hrun, hq, hreason.1⟩
  · exact absurd (hreason.2 1 (by decide)) (by decide)

theorem run_sparse : ∃ v q, PassLoop.Run (sparse.policy "") .off (refused sparse) v ∧ v.pass = .done (.ok .done) ∧
    (contract "task").current v.pool.state = some q ∧ q.record.status.reason = some .taskTimeout := by
  have hstores (clock : Instant) := (stores "task" clock).and (stores_told clock holding)
  exact ⟨_, _, .answers (.read (hstores _) rfl <| .round (hstores _) rfl rfl rfl <| .head ⟨holding_now _, rfl⟩ <|
      .head ⟨holding_provision (.error (.rejected "busy")), trivial⟩ <| .head ⟨holding_now _, rfl⟩ .refl) <|
    .head .again <| PassLoop.Run.answers (.read (hstores _) rfl <| .round (hstores _) rfl rfl rfl <|
      .head ⟨holding_deleteClaim (.ok .absent), trivial⟩ <| .round (hstores _) rfl rfl rfl <|
      .round (hstores _) rfl rfl rfl .refl) .refl, rfl, current_holding, rfl⟩

theorem window_missed : ¬ ∀ (c : Config) (v : PassLoop (contract "task")), c.invalid? = none →
    PassLoop.Run (c.policy "") .off (refused c) v → v.pass = .done (.ok .done) →
      ∃ q, (contract "task").current v.pool.state = some q ∧ q.record.status.reason = some .provisioningTimeout := by
  intro h
  obtain ⟨v, q, hrun, hdone, hq, hreason⟩ := run_sparse
  obtain ⟨q', hq', hreason'⟩ := h sparse v (by decide) hrun hdone
  cases hq.symm.trans hq'
  exact absurd (hreason.symm.trans hreason') (by decide)

end SandboxTasks.Reconcile
