import SandboxTasks.Proofs.Concurrent.Rules
import SandboxTasks.Proofs.Reconcile.Settled

namespace SandboxTasks

open Store

def Operation.IsCall : Operation → Prop
  | .poll _ | .assign _ _ _ => True
  | _ => False

theorem Operation.IsPlain.not_isCall {op : Operation} (h : op.IsPlain) : ¬ op.IsCall := by
  cases op with
  | poll | assign => exact h.elim
  | _ => exact not_false

theorem rounds_leaves (id : String) (change : Change) {P : Status → Prop}
    (hmade : ∀ now r next, change now r = some next → P next)
    (hleft : ∀ now r, change now r = none → P r.status) :
    Rounds .fitting (fun _ _ op => op.IsPlain) id change (fun _ _ _ => True) (fun _ q past _ => past.Shows q.record)
      (fun _ q _ past _ => past.Shows q.record) fun result past _ => ∀ modified, result = .ok modified →
        P modified.task.record.status ∧ past.Shows modified.task.record where
  exhausted _ _ _ := by rintro _ ⟨⟩
  find _ _ _ _ _ _ := ⟨trivial, fun found _ _ => by
    match found with
    | .error e | .ok none => rintro _ ⟨⟩
    | .ok (some q) => exact ⟨_, .head _, q, rfl, rfl⟩⟩
  now _ _ _ _ hshown _ _ := ⟨trivial, fun _ _ _ => hshown.cons _⟩
  unchanged _ q now _ _ hshown hnone := by
    rintro _ ⟨⟩
    exact ⟨hleft now q.record hnone, hshown⟩
  swap _ q now next hnext _ _ _ _ _ := ⟨trivial, fun swapped _ hfits => by
    cases swapped with
    | ok t =>
        obtain ⟨-, hstatus⟩ := hfits
        rintro _ ⟨⟩
        refine ⟨?_, _, .head _, t, rfl, rfl⟩
        rw [show (Modified.applied t).task.record.status = next from hstatus]
        exact hmade now q.record next hnext
    | error e =>
        cases e with
        | conflict => trivial
        | _ => rintro _ ⟨⟩⟩

theorem modifyWithin_leaves (id : String) (change : Change) {P : Status → Prop}
    (hmade : ∀ now r next, change now r = some next → P next)
    (hleft : ∀ now r, change now r = none → P r.status) (rounds : Nat) (past : History) :
    Conforms (fun _ op => op.IsPlain) (fun past' result => ∀ modified, result = .ok modified →
      P modified.task.record.status ∧ past'.Shows modified.task.record) past (modifyWithin rounds id change) :=
  ((rounds_leaves id change hmade hleft).upholds rounds trivial).conforms

namespace Reconcile

variable {p : Policy} {n : Callback.Notifier} {id : String} {r : Record} {now : Instant} {d : Duration} {α : Type}

theorem toNanos_elapsed_eq (now t : Instant) :
    (now.elapsed t).toNanos = min (now.distance t).toNat Duration.greatest.toNanos := by
  rw [Instant.elapsed, Duration.ofNanos, Duration.toNanos_normal]
  simp

theorem toNanos_le_of_le_remaining (h : d ≤ p.remaining now r) :
    (d.toNanos : Int) ≤ max 0 (p.taskTimeout.toNanos - now.distance r.createdAt) := by
  rw [Duration.le_iff, Policy.remaining, Duration.toNanos_minus, toNanos_elapsed_eq] at h
  have hgreatest := Duration.toNanos_le_greatest p.taskTimeout
  omega

theorem hasElapsed_of_le_distance {length : Duration} {t : Instant} (h : (length.toNanos : Int) ≤ now.distance t) :
    hasElapsed now t length := by
  rw [hasElapsed, decide_eq_true_iff, Duration.le_iff, toNanos_elapsed_eq]
  have hgreatest := Duration.toNanos_le_greatest length
  omega

/-- A pass began when its task was past the deadline, or had ended already. -/
inductive Overdue (p : Policy) : History → Prop
  | ended {i t} (h : t.record.status.phase.isTerminal) : Overdue p [⟨.find i, .ok (some t)⟩]
  | late {i t now} (h : (p.taskTimeout.toNanos : Int) ≤ now.distance t.record.createdAt) :
      Overdue p [⟨.now, now⟩, ⟨.find i, .ok (some t)⟩]
  | later {turn past} (h : Overdue p past) : Overdue p (turn :: past)

theorem not_overdue_nil : ¬ Overdue p [] := fun h => nomatch h

theorem Overdue.of_singleton {turn : Turn} (h : Overdue p [turn]) :
    ∃ i t, turn = ⟨.find i, .ok (some t)⟩ ∧ t.record.status.phase.isTerminal := by
  cases h with
  | ended h => exact ⟨_, _, rfl, h⟩
  | later h => cases h

theorem not_overdue_of_suffix {i : String} {t : Versioned} {past : History}
    (hopen : t.record.status.phase.isTerminal = false)
    (htimely : hasElapsed now t.record.createdAt p.taskTimeout = false)
    (h : [⟨.now, now⟩, ⟨.find i, .ok (some t)⟩] <:+ past) : ¬ Overdue p past := by
  intro hoverdue
  induction hoverdue with
  | ended => simpa using h.length_le
  | late hlate =>
      cases h.eq_of_length rfl
      exact absurd (htimely.symm.trans (hasElapsed_of_le_distance hlate)) (by decide)
  | @later turn past hoverdue ih =>
      rcases List.suffix_cons_iff.mp h with he | hsuffix
      · cases he
        obtain ⟨_, _, he, hended⟩ := hoverdue.of_singleton
        cases he
        exact absurd (hopen.symm.trans hended) (by decide)
      · exact ih hsuffix

/-- The task has ended as the client was shown it, or the client had to give up writing the end. -/
def Closed (past : History) : Prop :=
  (∃ r, past.Shows r ∧ r.status.phase.isTerminal) ∨ past.writes = 0 ∧ past.GaveUp rounds

namespace Rule

/-- The steps ask nothing of the sandbox and the worker of a task at work, and wherever they halt it is closed. -/
def closing : Rule Unit := ⟨.fitting, fun _ _ op => ¬ op.IsCall, fun past _ _ => Closed past⟩

def ShownEnded (past : History) (_ : Unit) : Prop := ∃ r, past.Shows r ∧ r.status.phase.isTerminal

theorem ShownEnded.of_suffix {past earlier : History} {s : Unit} (h : ShownEnded earlier s) (hpast : earlier <:+ past) :
    ShownEnded past s := h.imp fun _ h => ⟨h.1.of_suffix hpast, h.2⟩

theorem modify_shownEnded (id : String) (change : Change) :
    closing.Triple ShownEnded (modify id change) fun _ => ShownEnded := by
  refine .ofStore fun past _ hended => ?_
  have hmodified := modifyWithin_leaves id change (P := fun _ => True)
    (fun _ _ _ _ => trivial) (fun _ _ _ => trivial) rounds past
  refine (hmodified.weaken fun _ _ h => h.not_isCall).upholds.suffix.mono fun past' _ result h => ?_
  cases result with
  | ok modified => exact hended.of_suffix h.2
  | error e => exact .inl (hended.of_suffix h.2)

theorem asks_shownEnded {op : Operation} (h : ¬ op.IsCall) :
    Asks closing.around closing.may ShownEnded op fun _ => ShownEnded :=
  fun _ _ hended _ _ => ⟨h, fun _ _ _ => hended.of_suffix (List.suffix_cons _ _)⟩

theorem cleans_closing (r : Record) : closing.Cleans r ShownEnded where
  now := asks_shownEnded not_false
  send _ _ _ _ := asks_shownEnded not_false
  deleteClaim := .deleteClaim (asks_shownEnded not_false) fun _ _ _ => .inl
  sandboxDeleted _ := modify_shownEnded _ _
  notified _ _ _ := modify_shownEnded _ _

end Rule

theorem cleanup_closes {past : History} (h : Rule.ShownEnded past ()) :
    Conforms (fun _ op => ¬ op.IsCall) (fun past' _ => Closed past') past (cleanup n r).run := by
  refine ((Rule.cleans_closing r).cleanup past () h).conforms.mono fun _ result hsettles => ?_
  cases result with
  | ok outcome => exact .inl hsettles.2
  | error e => exact hsettles

theorem finish_closes (p : Policy) {past : History} (hfresh : past.writes = 0) (reason : EndReason) (message : String) :
    Conforms (fun _ op => ¬ op.IsCall) (fun past' _ => Closed past') past (finish n id reason message).run := by
  have hended := modifyWithin_leaves id (Change.finish reason (some message))
    (P := (·.phase.isTerminal)) (fun _ _ next hnext => ?_) (fun _ _ hnone => Status.terminate_eq_none.mp hnone)
    rounds past
  · have hmodifies : Conforms _ _ past (modifyWithin rounds id (Change.finish reason (some message))) :=
      Job.modifyWithin_conforms (.pass p n past.writes (.finish reason (some message))) rounds
    refine Conforms.bind (Conforms.bind (((hended.and hmodifies).weaken fun _ _ h => h.1.not_isCall).mono ?_))
    rintro past' result ⟨hends, hmodifies⟩
    cases result with
    | ok modified =>
        obtain ⟨hterminal, hshown⟩ := hends modified rfl
        exact cleanup_closes ⟨_, hshown, hterminal⟩
    | error e =>
        obtain ⟨hwrites, recent, rfl, hgave⟩ := hmodifies
        exact .inr ⟨hwrites.trans hfresh, hgave.after past⟩
  · rw [Change.terminate_eq hnext]
    exact EndReason.isTerminal_phase reason

theorem pass_closes : Conforms (fun past op => Overdue p past → ¬ op.IsCall)
    (fun past _ => Overdue p past → Closed past) [] (pass p n id) := by
  refine ⟨fun h => absurd h not_overdue_nil, fun found _ => ?_⟩
  match found with
  | .error e =>
      intro h
      obtain ⟨_, _, he, -⟩ := h.of_singleton
      cases he
  | .ok none =>
      intro h
      obtain ⟨_, _, he, -⟩ := h.of_singleton
      cases he
  | .ok (some task) =>
      -- A pass that is overdue for any reason needs steps that call nobody and close the task.
      have hclosed {past : History} {x : Routine (Except Error Outcome)}
          (h : Conforms (fun _ op => ¬ op.IsCall) (fun past' _ => Closed past') past x) :
          Conforms (fun past op => Overdue p past → ¬ op.IsCall) (fun past _ => Overdue p past → Closed past) past x := by
        apply Conforms.mono fun past' _ hend (_ : Overdue p past') => hend
        exact h.weaken fun past' _ hop (_ : Overdue p past') => hop
      change Conforms _ _ _ (ExceptT.run (if task.record.status.phase.isTerminal then cleanup n task.record else do
        let now ← wait .now
        if hasElapsed now task.record.createdAt p.taskTimeout then
          finish n task.record.id .taskTimeout (deadlineMessage p task.record.status.phase)
        else advance p n task.record))
      cases hended : task.record.status.phase.isTerminal with
      | true =>
          rw [if_pos rfl]
          exact hclosed (cleanup_closes ⟨_, ⟨_, .head _, task, rfl, rfl⟩, hended⟩)
      | false =>
          rw [if_neg (by decide)]
          refine ⟨fun _ => not_false, fun now _ => ?_⟩
          change Conforms _ _ _ (ExceptT.run (if hasElapsed now task.record.createdAt p.taskTimeout then
            finish n task.record.id .taskTimeout (deadlineMessage p task.record.status.phase) else advance p n task.record))
          cases hlate : hasElapsed now task.record.createdAt p.taskTimeout with
          | true =>
              rw [if_pos rfl]
              exact hclosed (finish_closes p rfl _ _)
          | false =>
              rw [if_neg (by decide)]
              exact .of_later (fun past' op h hoverdue => absurd hoverdue (not_overdue_of_suffix hended hlate h))
                (fun past' a h hoverdue => absurd hoverdue (not_overdue_of_suffix hended hlate h)) _

theorem Overdue.not_isCall {past : History} (h : Overdue p past)
    (hallowed : past.Allowed fun past op => Overdue p past → ¬ op.IsCall) : ∀ turn ∈ past, ¬ turn.op.IsCall := by
  induction h with
  | ended => simp [Operation.IsCall]
  | late => simp [Operation.IsCall]
  | @later turn past hoverdue ih =>
      obtain ⟨hturn, hpast⟩ := hallowed
      exact List.forall_mem_cons.mpr ⟨hturn hoverdue, ih hpast⟩

end Reconcile

open Reconcile in
/-- Whatever happened before, a pass is started, and from then on the task is not created anew while others act as they
like. If the pass asks to be called again, then before the deadline. If it came too late, then it asks nothing of
sandbox and worker, and when it is through, the task has ended, however the rest went, unless the pass has written
nothing and gave up, which a store that can be relied on only makes it do by letting others come first so often. -/
theorem deadline_kept {id : String} {C : Store.Contract id} {s : C.State} {b c : Pool C} {p : Policy}
    {n : Callback.Notifier} {past : History} {mode : Mode (Job.pass p n).Result}
    (hbefore : Run C (fun _ _ => True) ⟨s, []⟩ b) (h : Run C Spares b.anew c)
    (ht : ⟨.pass p n, past, mode⟩ ∈ c.threads) :
    (∀ d, mode = .running (.done (.ok (.requeue d))) → ∃ r, past.Shows r ∧
      (∀ q, C.current c.state = some q → q.record.createdAt = r.createdAt) ∧
      (d = .zero ∨ ∃ now, past.head? = some ⟨.now, now⟩ ∧
        (d.toNanos : Int) ≤ max 0 (p.taskTimeout.toNanos - now.distance r.createdAt))) ∧
    (Overdue p past → (∀ turn ∈ past, ¬ turn.op.IsCall) ∧
      (∀ op next, mode = .running (.call op next) → ¬ op.IsCall) ∧
      ∀ result, mode = .running (.done result) →
        (∀ q, C.current c.state = some q → q.record.status.phase.isTerminal) ∨
        past.writes = 0 ∧ past.GaveUp rounds ∧ (C.Reliable → rounds ≤ past.countP (·.lost))) := by
  have hb : b.anew.Sound := (run_sound hbefore (sound_idle s)).anew
  have hnew {P : Thread → Prop} (t : Thread) (ht : t ∈ b.anew.threads) (hjob : t.job = .pass p n) : P t :=
    absurd (hjob ▸ rfl) (Pool.not_isPass_anew ht)
  have hrecalls : Thread.Recalls C c.state ⟨.pass p n, past, mode⟩ :=
    run_of_origin (fun _ _ _ hmid horigin ih => horigin.recalls hmid (fun _ _ ho => ho) ih) h hb hnew _ ht rfl
  have htimely : Thread.Obeys _ _ ⟨.pass p n, past, mode⟩ :=
    run_of_origin (fun _ _ _ _ horigin ih => horigin.obeys (fun _ _ => pass_timely) ih) h hb hnew _ ht rfl
  have hcloses : Thread.Obeys _ _ ⟨.pass p n, past, mode⟩ :=
    run_of_origin (fun _ _ _ _ horigin ih => horigin.obeys (fun _ _ => pass_closes) ih) h hb hnew _ ht rfl
  obtain ⟨-, htimely⟩ := htimely p n past mode rfl
  obtain ⟨hallowed, hcloses⟩ := hcloses p n past mode rfl
  refine ⟨fun d hmode => ?_, fun hoverdue => ⟨hoverdue.not_isCall hallowed, fun op next hmode => ?_, fun result hmode => ?_⟩⟩
  · obtain ⟨r, hshown, hd⟩ := htimely _ hmode d rfl
    refine ⟨r, hshown, fun q hq => ?_, hd.imp_right fun ⟨now, hnow, hle⟩ => ⟨now, hnow, toNanos_le_of_le_remaining hle⟩⟩
    rw [(hrecalls r hshown q hq).rest]
  · exact (hcloses _ hmode).1 hoverdue
  · obtain ⟨r, hshown, hended⟩ | ⟨hwrites, hgave⟩ := hcloses _ hmode hoverdue
    · exact .inl fun q hq => (hrecalls r hshown q hq).isTerminal hended
    · by_cases hreliable : C.Reliable
      · have hunfailed : Thread.Unfailed C c.state ⟨.pass p n, past, mode⟩ :=
          run_of_origin (fun _ _ _ hmid horigin ih => horigin.unfailed hreliable hmid (fun _ _ ho => ho) ih) h hb hnew
            _ ht rfl
        obtain hlost | ⟨turn, hturn, hfailed⟩ := hgave
        · exact .inr ⟨hwrites, .inl hlost, fun _ => hlost⟩
        · exact .inl fun q hq => nomatch (hunfailed turn hturn hfailed).symm.trans hq
      · exact .inr ⟨hwrites, hgave, fun hr => absurd hr hreliable⟩

open Reconcile in
/-- A pass looks at a running task one second before the deadline, and the next one comes too late. It ends the task,
and then the sandbox cannot be deleted. -/
theorem deadline_kept_running : ∃ (c : Pool (Memory.contract "task")) (early late : History) (d : Duration)
    (e : ProvisionError) (q : Versioned),
    Run _ Spares (Pool.anew ⟨Memory.holding { Memory.sample with status := { Status.initial with phase := .running } } 1,
      []⟩) c ∧ Contract.current _ c.state = some q ∧
    ⟨.pass onceTried .off, early, .running (.done (.ok (.requeue d)))⟩ ∈ c.threads ∧ d = .ofSeconds 1 ∧
    (∃ now, early.head? = some ⟨.now, now⟩ ∧
      (d.toNanos : Int) ≤ max 0 (onceTried.taskTimeout.toNanos - now.distance q.record.createdAt)) ∧
    ⟨.pass onceTried .off, late, .running (.done (.error (.provision e)))⟩ ∈ c.threads ∧ Overdue onceTried late ∧
    (∀ turn ∈ late, ¬ turn.op.IsCall) ∧ late.writes = 1 ∧ q.record.status.phase.isTerminal := by
  suffices h : ∃ (c : Pool (Memory.contract "task")) (early late : History) (d : Duration) (e : ProvisionError)
      (q : Versioned),
      Run _ Spares (Pool.anew ⟨Memory.holding { Memory.sample with status := { Status.initial with phase := .running } } 1,
        []⟩) c ∧ Contract.current _ c.state = some q ∧
      ⟨.pass onceTried .off, early, .running (.done (.ok (.requeue d)))⟩ ∈ c.threads ∧ d = .ofSeconds 1 ∧
      ⟨.pass onceTried .off, late, .running (.done (.error (.provision e)))⟩ ∈ c.threads ∧ Overdue onceTried late ∧
      late.writes = 1 by
    obtain ⟨c, early, late, d, e, q, hrun, hq, hearly, rfl, hlate, hoverdue, hwrites⟩ := h
    obtain ⟨r, -, hcreated, hd⟩ := (deadline_kept .refl hrun hearly).1 _ rfl
    obtain ⟨hquiet, -, hends⟩ := (deadline_kept .refl hrun hlate).2 hoverdue
    refine ⟨c, early, late, _, e, q, hrun, hq, hearly, rfl, ?_, hlate, hoverdue, hquiet, hwrites, ?_⟩
    · rw [hcreated q hq]
      exact hd.resolve_left (by decide)
    · exact (hends _ rfl).resolve_right (fun h => absurd (hwrites.symm.trans h.1) (by decide)) q hq
  exact ⟨_, _, _, _, .rejected "", _, .start (.pass onceTried .off) rfl <|
    .answers [] (.read (Memory.stores "task" (.ofNanos 599000000000)) rfl <| .head (Memory.holding_poll (.ok .unknown)) <|
      .head (Memory.holding_now (.ofNanos 599000000000)) .refl) <| .start (.pass onceTried .off) rfl <|
    .answers [] (.read (Memory.stores "task" (.ofNanos 600000000000)) rfl <|
      .round (Memory.stores "task" (.ofNanos 600000000000)) rfl rfl rfl <|
      .head (Memory.holding_deleteClaim (.error (.rejected ""))) .refl) .refl, Memory.current_holding,
    .tail _ (.head _), by decide, .head _, .later (.later (.later (.later (.late (by decide))))), rfl⟩

end SandboxTasks
