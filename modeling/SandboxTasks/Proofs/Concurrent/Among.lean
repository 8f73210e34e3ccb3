import SandboxTasks.Proofs.Reconcile.Course

namespace SandboxTasks

open Store

def Operation.IsPlain : Operation → Prop
  | .now | .find _ | .swap _ _ _ | .exchange _ _ => True
  | _ => False

namespace Change

variable {now : Instant} {r : Record} {next : Status} {report : Report}

theorem isTerminal_reported {s : Status} (hkind : report.kind.isTerminal) :
    (reported report now s).phase.isTerminal := by
  have hend (reason : EndReason) : ((s.terminate? now reason report.message).getD s).phase.isTerminal := by
    cases h : s.terminate? now reason report.message with
    | none => exact Status.terminate_eq_none.mp h
    | some next =>
        rw [terminate_eq h]
        exact EndReason.isTerminal_phase reason
  unfold reported
  cases hk : report.kind with
  | started | progress =>
      rw [hk] at hkind
      cases hkind
  | completed | failed => exact hend _

theorem isTerminal_of_report_eq_none (hkind : report.kind.isTerminal) (h : Change.report report now r = none) :
    r.status.phase.isTerminal := by
  cases hr : r.status.phase.isTerminal with
  | true => rfl
  | false =>
      have hended : (reported report now r.status).phase.isTerminal := isTerminal_reported hkind
      simp only [Change.report, hr, Bool.false_eq_true, if_false, ite_eq_left_iff, reduceCtorEq, imp_false,
        Decidable.not_not] at h
      rw [h] at hended
      exact absurd (hr.symm.trans hended) (by decide)

end Change

variable {id : String} {C : Contract id} {alone : Prop} {past : History} {s : C.State} {change : Change}

theorem Allows.plain {known : Record → Prop} {log : History} :
    Allows C (fun _ _ op => op.IsPlain) known log change where
  find _ _ _ := trivial
  now _ _ _ := trivial
  swap _ _ _ _ _ _ _ _ _ _ := trivial

theorem modify_plain (past : History) (s : C.State)
    (hfollows : ∀ now r next, change now r = some next → next.Follows r.status) :
    Upholds (C.among alone) (fun _ _ op => op.IsPlain) (Changed C alone (fun _ => True) change past.outside) past s
      (Store.modify id change) :=
  modify_upholds .plain hfollows (fun _ _ _ _ => trivial) rfl fun _ _ => trivial

def Report.Answers (C : Contract id) (report : Report) (past : History) (s : C.State) :
    Except StoreError Report.Verdict → Prop
  | .ok (.accepted phase changed) => ∃ r, Known C False past s r ∧ r.status.phase = phase ∧
      (report.kind.isTerminal → phase.isTerminal ∧ (changed → 0 < past.turned (·.phase.isTerminal)))
  | .ok (.alreadyTerminal phase) => ∃ r, Known C False past s r ∧ r.status.phase = phase ∧ phase.isTerminal
  | .ok .unknownTask => C.Reliable → C.current s = none
  | .error _ => True

def Reconcile.CancelAnswers (C : Contract id) (past : History) (s : C.State) : Except StoreError (Option Phase) → Prop
  | .ok (some phase) => ∃ r, Known C False past s r ∧ r.status.phase = phase ∧ phase.isTerminal
  | .ok none => C.Reliable → C.current s = none
  | .error _ => True

theorem Report.apply_upholds (report : Report) (past : History) (s : C.State) :
    Upholds (C.among alone) (fun _ _ op => op.IsPlain) (report.Answers C) past s (Report.apply id report) := by
  refine Upholds.bind ((modify_plain past s fun _ _ _ h => Change.report_follows h).mono fun past' s' result h => ?_)
  match result with
  | .error (.notFound i) => exact fun hreliable => h.2.1 hreliable ⟨i, rfl⟩
  | .error (.alreadyExists _) | .error (.conflict _) | .error (.illegalTransition _ _ _) | .error (.malformed _ _)
  | .error (.cluster _) => trivial
  | .ok (.applied t) =>
      obtain ⟨-, ht, q, -, hwrote⟩ := h
      refine ⟨t.record, ht.weaken, rfl, fun hkind => ?_⟩
      have hended : t.record.status.phase.isTerminal ∧ q.record.status.phase.isTerminal = false := by
        obtain ⟨-, now, next, hnext, hrecord, -⟩ := hwrote
        obtain ⟨hq, rfl⟩ := Change.report_eq hnext
        rw [hrecord]
        exact ⟨Change.isTerminal_reported hkind, hq⟩
      exact ⟨hended.1, fun _ => hwrote.turned hended.2 hended.1⟩
  | .ok (.unchanged t) =>
      obtain ⟨-, ht, -, now, hnone⟩ := h
      change Upholds (C.among alone) _ _ past' s' (if t.record.status.phase.isTerminal && !report.kind.isTerminal then
        pure (Except.ok (Verdict.alreadyTerminal t.record.status.phase))
        else pure (Except.ok (Verdict.accepted t.record.status.phase false)))
      by_cases hlate : t.record.status.phase.isTerminal && !report.kind.isTerminal
      · rw [if_pos hlate]
        exact ⟨t.record, ht.weaken, rfl, (Bool.and_eq_true_iff.mp hlate).1⟩
      · rw [if_neg hlate]
        exact ⟨t.record, ht.weaken, rfl, fun hkind =>
          ⟨Change.isTerminal_of_report_eq_none hkind hnone, fun h => nomatch h⟩⟩

theorem Reconcile.cancel_upholds (past : History) (s : C.State) :
    Upholds (C.among alone) (fun _ _ op => op.IsPlain) (CancelAnswers C) past s (Reconcile.cancel id) := by
  refine Upholds.bind ((modify_plain past s fun _ _ _ h => Status.follows_of_terminate h).mono
    fun past' s' result h => ?_)
  match result with
  | .error (.notFound i) => exact fun hreliable => h.2.1 hreliable ⟨i, rfl⟩
  | .error (.alreadyExists _) | .error (.conflict _) | .error (.illegalTransition _ _ _) | .error (.malformed _ _)
  | .error (.cluster _) => trivial
  | .ok (.applied t) =>
      obtain ⟨-, ht, q, -, -, now, next, hnext, hrecord, -⟩ := h
      refine ⟨t.record, ht.weaken, rfl, ?_⟩
      simp only [Modified.task, hrecord, Change.terminate_eq hnext]
      exact EndReason.isTerminal_phase _
  | .ok (.unchanged t) =>
      obtain ⟨-, ht, -, now, hnone⟩ := h
      exact ⟨t.record, ht.weaken, rfl, Status.terminate_eq_none.mp hnone⟩

theorem Credential.release_upholds (past : History) (s : C.State) :
    Upholds (C.among alone) (fun _ _ op => op.IsPlain) (fun _ _ _ => True) past s (Credential.release id) :=
  Upholds.bind ((modify_plain past s fun _ _ _ h => Change.releaseCredential_follows h).mono fun _ _ _ _ => trivial)

theorem Credential.issue_upholds (configured : Bool) (past : History) (s : C.State) :
    Upholds (C.among alone) (fun _ _ op => op.IsPlain) (fun _ _ _ => True) past s (Credential.issue configured id) := by
  cases configured with
  | false => trivial
  | true =>
      refine Upholds.bind (Upholds.bind ((modify_plain past s fun _ _ _ h => ?_).mono fun past' s' result _ => ?_))
      · exact Change.reserveCredential_follows h
      · match result with
        | .error (.notFound _) | .error (.alreadyExists _) | .error (.conflict _) | .error (.illegalTransition _ _ _)
        | .error (.malformed _ _) | .error (.cluster _) => trivial
        | .ok (.unchanged t) =>
            simp only [Modified.isApplied, Bool.false_eq_true, if_false]
            by_cases hended : (Modified.unchanged t).task.record.status.phase.isTerminal
            · rw [if_pos hended]
              trivial
            · rw [if_neg hended]
              trivial
        | .ok (.applied t) =>
            intro s₁ h₁
            refine ⟨trivial, fun answer s₂ hs => ?_⟩
            cases answer with
            | ok grant => trivial
            | error e =>
                change Upholds (C.among alone) _ _ _ s₂ (release id >>= fun _ =>
                  pure (Except.error (CredentialError.exchange e)))
                exact Upholds.bind ((release_upholds _ s₂).mono fun _ _ _ _ => trivial)

theorem Credential.abandoned_upholds {waiting : Operation}
    (h : ∀ i repository, waiting = .exchange i repository → i = id) (past : History) (s : C.State) :
    Upholds (C.among alone) (fun _ _ op => op.IsPlain) (fun _ _ _ => True) past s (Credential.abandoned waiting) := by
  cases waiting with
  | exchange i repository =>
      obtain rfl := h i repository rfl
      exact release_upholds past s
  | _ => trivial

namespace Job

def Calls (j : Job) (C : Contract id) (alone : Prop) : History → C.State → Operation → Prop :=
  match j with
  | pass policy notifier => Reconcile.Calls C alone policy notifier
  | _ => fun _ _ op => op.IsPlain

def Closes (j : Job) (C : Contract id) (alone : Prop) (past : History) (s : C.State) (result : j.Result) : Prop :=
  match j, result with
  | pass _ _, result => Reconcile.Closes C alone past s result
  | report r, result => r.Answers C past s result
  | cancel, result => Reconcile.CancelAnswers C past s result
  | _, _ => True

theorem routine_upholds {j : Job} (h : ∀ i repository, j = leftover (.exchange i repository) → i = id) (s : C.State) :
    Upholds (C.among alone) (j.Calls C alone) (j.Closes C alone) [] s (j.routine id) := by
  match j with
  | report r => exact Report.apply_upholds r [] s
  | cancel => exact Reconcile.cancel_upholds [] s
  | credential configured => exact Credential.issue_upholds configured [] s
  | pass policy notifier => exact Reconcile.pass_upholds s
  | leftover waiting => exact Credential.abandoned_upholds (fun i repository he => h i repository (he ▸ rfl)) [] s

theorem Closes.carry {j : Job} {s' : C.State} {result : j.Result} (hs : Meanwhile False C s s')
    (h : j.Closes C alone past s result) : j.Closes C alone past s' result := by
  match j, result with
  | pass _ _, result => exact Reconcile.Closes.carry hs h
  | report _, .ok (.accepted _ _) =>
      obtain ⟨r, hr, hrest⟩ := h
      exact ⟨r, hr.carry hs, hrest⟩
  | report _, .ok (.alreadyTerminal _) =>
      obtain ⟨r, hr, hrest⟩ := h
      exact ⟨r, hr.carry hs, hrest⟩
  | report _, .ok .unknownTask => exact fun hreliable => hs.gone (h hreliable)
  | report _, .error _ => trivial
  | cancel, .ok (some _) =>
      obtain ⟨r, hr, hrest⟩ := h
      exact ⟨r, hr.carry hs, hrest⟩
  | cancel, .ok none => exact fun hreliable => hs.gone (h hreliable)
  | cancel, .error _ => trivial
  | credential _, _ => trivial
  | leftover _, _ => trivial

end Job

/-- The thread keeps to the rule of its job; `alone` says which jobs reckon with no pass among the others. -/
def Thread.KeepsRule (C : Contract id) (alone : Job → Prop) (s : C.State) (t : Thread) : Prop :=
  ∀ rest, t.mode = .running rest →
    Upholds (C.among (alone t.job)) (t.job.Calls C (alone t.job)) (t.job.Closes C (alone t.job)) t.past s rest

/-- What allows a job to make a change of a record that it has seen. -/
inductive Job.Grounds (alone : Prop) (j : Job) (past : History) (seen : Record) (change : Change) : Prop
  | plain (hpass : ¬ j.isPass) (h : j.Makes past.writes change)
  | pass {policy : Reconcile.Policy} {notifier : Callback.Notifier} (hpass : j = .pass policy notifier)
      (h : Reconcile.Decides alone policy notifier past seen change)

theorem Job.Grounds.makes {j : Job} {past : History} {seen : Record} {change : Change}
    (h : j.Grounds alone past seen change) : j.Makes past.writes change := by
  cases h with
  | plain _ h => exact h
  | pass hpass h =>
      obtain ⟨-, -, -, -, h⟩ := h
      subst hpass
      exact .pass _ _ _ h.ofPass

/-- What an answered request of a thread comes to for the task, and on what grounds. -/
inductive GroundedEffect (C : Contract id) (alone : Prop) (s s' : C.State) (t : Thread) (turn : Turn) : Prop
  | quiet (hview : C.view s' = C.view s) (hwrote : turn.wrote = false)
  | wrote {r q : Versioned} {change : Change} {now : Instant} {next : Status} (hbefore : C.current s = some r)
      (hseen : t.past.lastSeen? = some r) (hgrounds : t.job.Grounds alone t.past r.record change)
      (hchange : change now r.record = some next) (hafter : C.current s' = some q)
      (hrecord : q.record = { r.record with status := next }) (hturn : turn = ⟨.swap id r.version next, .ok q⟩)
      (hclock : t.past.head? = some ⟨.now, now⟩)

theorem Thread.KeepsRule.calls {alone : Job → Prop} {t : Thread} {op : Operation} (h : t.KeepsRule C alone s)
    (hwaits : t.Waits op) : t.job.Calls C (alone t.job) t.past s op := by
  obtain ⟨next, hmode⟩ := hwaits
  exact (h _ hmode s (.refl s)).1

theorem Thread.KeepsRule.passCalls {alone : Job → Prop} {t : Thread} {op : Operation} (h : t.KeepsRule C alone s)
    (hwaits : t.Waits op) (hop : ¬ op.IsPlain) : ∃ policy notifier, t.job = .pass policy notifier ∧ t.job.isPass ∧
      Reconcile.Calls C (alone t.job) policy notifier t.past s op := by
  have hcalls := h.calls hwaits
  obtain ⟨j, past, mode⟩ := t
  cases j with
  | pass policy notifier => exact ⟨policy, notifier, rfl, rfl, hcalls⟩
  | _ => exact absurd hcalls hop

theorem Thread.KeepsRule.closes {alone : Job → Prop} {j : Job} {past : History} {result : j.Result}
    (h : KeepsRule C alone s ⟨j, past, .running (.done result)⟩) : j.Closes C (alone j) past s result :=
  h _ rfl

theorem Thread.KeepsRule.groundedEffect {alone : Job → Prop} {t : Thread} {op : Operation} {a : op.Answer} {s' : C.State}
    (h : t.KeepsRule C alone s) (hsound : t.Sound C s) (hwaits : t.Waits op) (hs : C.serves s op a s') :
    GroundedEffect C (alone t.job) s s' t ⟨op, a⟩ := by
  cases effect_of_serves hsound.knows (hsound.may hwaits) hs with
  | quiet hview hwrote => exact .quiet hview hwrote
  | wrote hbefore hseen hmakes hchange hafter hrecord hturn hclock =>
      have hcalls := h.calls hwaits
      by_cases hpass : t.job.isPass
      · obtain ⟨j, past, mode⟩ := t
        cases j with
        | pass policy notifier =>
            cases hturn
            obtain ⟨-, seen, now, change, hknows, hversion, hchange, hdecides, hclock⟩ := hcalls
            cases hknows.eq_of_version hbefore hversion.symm
            exact .wrote hbefore hseen (.pass rfl hdecides) hchange hafter hrecord rfl hclock
        | _ => cases hpass
      · exact .wrote hbefore hseen (.plain hpass hmakes) hchange hafter hrecord hturn hclock

/-- How the store may come to be as it is now for a client that has done nothing; `alone` says that no pass did it. -/
inductive Foreign (C : Contract id) (others : C.State → C.State → Prop) (alone : Prop) (c : Pool C) (s' : C.State) :
    Prop
  | idle (h : s' = c.state)
  | other {op : Operation} {a : op.Answer} (hs : C.serves c.state op a s') (ho : others c.state s')
  | job {t : Thread} {op : Operation} {a : op.Answer} (ht : t ∈ c.threads) (hwaits : t.Waits op)
      (halone : alone → ¬ t.job.isPass) (hs : C.serves c.state op a s')

/-- Where a thread of a pool is from after a step. -/
inductive Origin (C : Contract id) (others : C.State → C.State → Prop) (alone : Job → Prop) (c : Pool C)
    (s' : C.State) : Thread → Prop
  | kept {t : Thread} (h : t ∈ c.threads) (hforeign : Foreign C others (alone t.job ∧ ∃ op, t.Waits op) c s') :
      Origin C others alone c s' t
  | started (j : Job) (h : ∀ i repository, j = .leftover (.exchange i repository) → i = id) :
      Origin C others alone c s' (j.thread id)
  | answered {j past op next} {a : op.Answer} (h : ⟨j, past, .running (.call op next)⟩ ∈ c.threads)
      (hs : C.serves c.state op a s') : Origin C others alone c s' ⟨j, ⟨op, a⟩ :: past, .running (next a)⟩
  | dropped {j past op next} (h : ⟨j, past, .running (.call op next)⟩ ∈ c.threads) (hs : s' = c.state) :
      Origin C others alone c s' ⟨j, past, .dropped op⟩
  | lost {j past op next} {a : op.Answer} (h : ⟨j, past, .running (.call op next)⟩ ∈ c.threads)
      (hs : C.serves c.state op a s') : Origin C others alone c s' ⟨j, ⟨op, a⟩ :: past, .dropped op⟩

variable {others : C.State → C.State → Prop} {c : Pool C} {s' : C.State}

theorem Foreign.meanwhile (h : Foreign C others alone c s') (hsound : c.Sound)
    (hothers : ∀ s s', others s s' → Spares (C.current s) (C.current s')) : Meanwhile alone C c.state s' := by
  cases h with
  | idle h => exact h ▸ .refl _
  | other hs ho => exact .of_spares hs (hothers _ _ ho)
  | job ht hwaits halone hs =>
      have hthread := hsound _ ht
      exact .of_effect hs (effect_of_serves hthread.knows (hthread.may hwaits) hs) halone

theorem Origin.keepsRule {alone : Job → Prop} {u : Thread} (h : Origin C others alone c s' u) (hsound : c.Sound)
    (hothers : ∀ s s', others s s' → Spares (C.current s) (C.current s'))
    (hc : ∀ t ∈ c.threads, t.job = u.job → t.KeepsRule C alone c.state) : u.KeepsRule C alone s' := by
  intro rest hmode
  cases h with
  | kept h hforeign =>
      have hm := hforeign.meanwhile hsound hothers
      refine (hc u h rfl rest hmode).carry (fun _ hends => hends.carry hm.weaken) fun op next he s₁ h₁ => ?_
      have hwaits : Meanwhile (alone u.job) C c.state s' := hm.imp fun halone => ⟨halone, op, next, he ▸ hmode⟩
      exact hwaits.trans h₁
  | started j h =>
      cases hmode
      exact Job.routine_upholds h s'
  | answered h hs =>
      cases hmode
      exact (hc _ h rfl _ rfl c.state (.refl _)).2 _ s' hs
  | dropped | lost => cases hmode

/-- Every record that a thread was shown has become the one there is now. -/
def Thread.Recalls (C : Contract id) (s : C.State) (t : Thread) : Prop :=
  ∀ r, t.past.Shows r → ∀ q, C.current s = some q → r.Becomes False q.record

theorem Origin.recalls {alone : Job → Prop} {u : Thread} (h : Origin C others alone c s' u) (hsound : c.Sound)
    (hothers : ∀ s s', others s s' → Spares (C.current s) (C.current s'))
    (hc : ∀ t ∈ c.threads, t.job = u.job → t.Recalls C c.state) : u.Recalls C s' := by
  have hcarry {t : Thread} (ht : t.Recalls C c.state) (hm : Meanwhile False C c.state s') : t.Recalls C s' := by
    intro r hr q hq
    obtain ⟨q', hq', hbecomes⟩ := hm.becomes q hq
    exact (ht r hr q' hq').trans hbecomes
  have hserved {j : Job} {past : History} {op : Operation} {next : op.Answer → Routine j.Result} {a : op.Answer}
      {mode : Mode j.Result} (ht : ⟨j, past, .running (.call op next)⟩ ∈ c.threads) (hs : C.serves c.state op a s')
      (hrecalls : (⟨j, past, .running (.call op next)⟩ : Thread).Recalls C c.state) :
      (⟨j, ⟨op, a⟩ :: past, mode⟩ : Thread).Recalls C s' := by
    have hforeign : Foreign C others False c s' := .job ht ⟨next, rfl⟩ False.elim hs
    intro r hr q hq
    obtain ⟨q', hq', rfl⟩ | hr := hr.served ((hsound _ ht).may ⟨next, rfl⟩) hs
    · cases hq'.symm.trans hq
      exact .refl _
    · exact hcarry hrecalls (hforeign.meanwhile hsound hothers) r hr q hq
  cases h with
  | kept h hforeign => exact hcarry (hc u h rfl) (hforeign.meanwhile hsound hothers).weaken
  | started j =>
      rintro r ⟨turn, hmem, -⟩
      cases hmem
  | answered h hs => exact hserved h hs (hc _ h rfl)
  | dropped h hs =>
      intro r hr q hq
      rw [hs] at hq
      exact hc _ h rfl r hr q hq
  | lost h hs => exact hserved h hs (hc _ h rfl)

section

variable {t : Thread} {s s' : C.State} {ts before after : List Thread}

theorem Moves.foreign {others : C.State → C.State → Prop} {alone : Prop} (h : Moves C s t s' ts)
    (halone : alone → ¬ t.job.isPass) : Foreign C others alone ⟨s, before ++ t :: after⟩ s' := by
  have ht : t ∈ before ++ t :: after := List.mem_append_right _ (.head _)
  cases h with
  | drop => exact .idle rfl
  | answer hs | lose hs => exact .job ht ⟨_, rfl⟩ halone hs

theorem Moves.origin {others : C.State → C.State → Prop} {alone : Job → Prop} (h : Moves C s t s' ts)
    (ht : t.Sound C s) : ∀ u ∈ ts, Origin C others alone ⟨s, before ++ t :: after⟩ s' u := by
  have hmem : t ∈ before ++ t :: after := List.mem_append_right _ (.head _)
  have hleaves {j : Job} {past : History} {op : Operation} (hmay : j.May id past op) :
      ∀ u ∈ j.leaves id op, Origin C others alone ⟨s, before ++ t :: after⟩ s' u := by
    intro u hu
    cases j with
    | credential configured =>
        obtain rfl := List.mem_singleton.mp hu
        refine .started _ fun i repository he => ?_
        cases he
        exact hmay.1
    | _ => cases hu
  cases h with
  | answer hs => exact List.forall_mem_singleton.mpr (.answered hmem hs)
  | drop => exact List.forall_mem_cons.mpr ⟨.dropped hmem rfl, hleaves (ht.conforms _ rfl).1⟩
  | lose hs => exact List.forall_mem_cons.mpr ⟨.lost hmem hs, hleaves (ht.conforms _ rfl).1⟩

end

section

variable {others : Option Versioned → Option Versioned → Prop} {c d : Pool C}

theorem Step.origin (h : Step C others c d) (hsound : c.Sound) : ∀ u ∈ d.threads,
    Origin C (fun s s' => others (C.current s) (C.current s')) (fun _ => False) c d.state u := by
  cases h with
  | start j hj =>
      refine List.forall_mem_cons.mpr ⟨.started j fun i repository he => ?_, fun u hu => .kept hu (.idle rfl)⟩
      rw [he] at hj
      cases hj
  | other hs ho => exact fun u hu => .kept hu (.other hs ho)
  | @move s s' t ts before after hm =>
      intro u hu
      rw [List.append_assoc] at hu
      have hkept (hu : u ∈ before ++ t :: after) :
          Origin C (fun s s' => others (C.current s) (C.current s')) (fun _ => False) ⟨s, before ++ t :: after⟩ s' u :=
        .kept hu (hm.foreign fun h => h.1.elim)
      rcases List.mem_append.mp hu with hu | hu
      · exact hkept (List.mem_append_left _ hu)
      rcases List.mem_append.mp hu with hu | hu
      · exact hm.origin (hsound t (List.mem_append_right _ (.head _))) u hu
      · exact hkept (List.mem_append_right _ (.tail _ hu))

/-- What is true of the threads of a job wherever they are from is true of them all in the end. -/
theorem run_of_origin {P : C.State → Thread → Prop} {j : Job}
    (hP : ∀ (c : Pool C) s' u, c.Sound →
      Origin C (fun s s' => Spares (C.current s) (C.current s')) (fun _ => False) c s' u →
      (∀ t ∈ c.threads, t.job = u.job → P c.state t) → P s' u)
    (h : Run C Spares c d) (hsound : c.Sound) (hc : ∀ t ∈ c.threads, t.job = j → P c.state t) :
    ∀ t ∈ d.threads, t.job = j → P d.state t := by
  induction h with
  | refl => exact hc
  | tail hrun hs ih =>
      have hmid := run_sound hrun hsound
      rintro u hu rfl
      exact hP _ _ u hmid (hs.origin hmid u hu) ih

theorem run_keepsRule_of_job {j : Job} (h : Run C Spares c d) (hsound : c.Sound)
    (hc : ∀ t ∈ c.threads, t.job = j → t.KeepsRule C (fun _ => False) c.state) :
    ∀ t ∈ d.threads, t.job = j → t.KeepsRule C (fun _ => False) d.state :=
  run_of_origin (fun _ _ _ hmid horigin ih => horigin.keepsRule hmid (fun _ _ ho => ho) ih) h hsound hc

theorem run_keepsRule (h : Run C Spares c d) (hsound : c.Sound)
    (hc : ∀ t ∈ c.threads, t.KeepsRule C (fun _ => False) c.state) :
    ∀ t ∈ d.threads, t.KeepsRule C (fun _ => False) d.state :=
  fun u hu => run_keepsRule_of_job h hsound (fun t ht _ => hc t ht) u hu rfl

end

end SandboxTasks
