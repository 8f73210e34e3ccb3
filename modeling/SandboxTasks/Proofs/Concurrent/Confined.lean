import SandboxTasks.Proofs.Concurrent.Meanwhile
import SandboxTasks.Proofs.Reconcile.Walk

namespace SandboxTasks

variable {id : String} {α β : Type}

def Status.Bears (id : String) (s : Status) : Prop :=
  ∀ sandbox, s.sandbox = some sandbox → sandbox.claim = TaskId.claimName id

structure Record.BelongsTo (i : String) (r : Record) : Prop where
  id : r.id = i
  bears : r.status.Bears i

theorem Record.BelongsTo.claim {r : Record} (h : r.BelongsTo id) : r.sandbox.claim = TaskId.claimName id := by
  rw [Record.sandbox]
  cases hsandbox : r.status.sandbox with
  | none => exact congrArg TaskId.claimName h.id
  | some sandbox => exact h.bears sandbox hsandbox

/-- The request concerns the task and its claim, and no other. -/
def Operation.Concerns (id : String) : Operation → Prop
  | .now => True
  | .find i | .exchange i _ | .assign _ i _ => i = id
  | .swap i _ status => i = id ∧ status.Bears id
  | .provision r => r.id = id
  | .poll sandbox | .deleteClaim sandbox => sandbox.claim = TaskId.claimName id
  | .send _ _ event => event.payload.task = id
  | _ => False

/-- The answer shows nothing but what belongs to the task. -/
def Operation.Tells (id : String) : (op : Operation) → op.Answer → Prop
  | .find _, .ok (some t) => t.record.BelongsTo id
  | .swap _ _ _, .ok t => t.record.BelongsTo id
  | .provision _, .ok sandbox => sandbox.claim = TaskId.claimName id
  | _, _ => True

def Surroundings.telling (id : String) : Surroundings Unit :=
  ⟨fun _ _ => True, fun _ _ op a _ => op.Fits a ∧ op.Tells id a⟩

/-- The routine keeps to the task, as long as it is told of that one only, and ends as stated. -/
abbrev Confined (id : String) (ends : α → Prop) (past : History) (p : Routine α) : Prop :=
  Upholds (.telling id) (fun _ _ op => op.Concerns id) (fun _ _ a => ends a) past () p

namespace Change

variable {change : Change}

/-- The change leaves the task with a sandbox of its own, if with any. -/
def Proper (id : String) (change : Change) : Prop :=
  ∀ now r next, r.status.Bears id → change now r = some next → next.Bears id

theorem proper_of_sandbox (h : ∀ now r next, change now r = some next → next.sandbox = r.status.sandbox) :
    change.Proper id := by
  intro now r next hbears hnext sandbox hsandbox
  rw [h now r next hnext] at hsandbox
  exact hbears sandbox hsandbox

theorem proper_of_makes {j : Job} {writes : Nat} (h : j.Makes writes change) (hpass : ¬ j.isPass) :
    change.Proper id := by
  apply proper_of_sandbox
  intro now r next hnext
  exact ((h.becomes hnext fun _ : True => hpass).course trivial).sandbox

theorem proper_finish (reason : EndReason) (message : Option String) : (finish reason message).Proper id :=
  proper_of_sandbox fun _ _ _ hnext => (course_terminate hnext).sandbox

theorem OfAdvance.proper (h : change.OfAdvance) : change.Proper id := by
  cases h with
  | finish => exact proper_finish _ _
  | startProvisioning =>
      apply proper_of_sandbox
      intro now r next hnext
      obtain ⟨-, ⟨⟩⟩ := Option.ite_none_right_eq_some.mp hnext
      rfl
  | forgetSandbox =>
      intro now r next _ hnext other hother
      obtain ⟨-, ⟨⟩⟩ := Option.ite_none_right_eq_some.mp hnext
      cases hother
  | markReady address =>
      intro now r next hbears hnext other hother
      rw [(markReady_eq hnext).2] at hother
      obtain ⟨sandbox, hsandbox, rfl⟩ := Option.map_eq_some_iff.mp hother
      exact hbears sandbox hsandbox

theorem OfHandover.proper (h : change.OfHandover) : change.Proper id := by
  cases h with
  | finish => exact proper_finish _ _
  | startAssigning | assignmentFailed =>
      apply proper_of_sandbox
      intro now r next hnext
      obtain ⟨-, ⟨⟩⟩ := Option.ite_none_right_eq_some.mp hnext
      rfl
  | assigned =>
      apply proper_of_sandbox
      intro now r next hnext
      obtain ⟨-, ⟨⟩⟩ := Option.ite_none_right_eq_some.mp hnext
      exact (course_noteWorker r.status).sandbox

theorem proper_sandboxDeleted (reason : String) : (sandboxDeleted reason).Proper id := by
  apply proper_of_sandbox
  intro now r next hnext
  obtain ⟨-, ⟨⟩⟩ := Option.ite_none_left_eq_some.mp hnext
  rfl

theorem proper_notified (delivered : Bool) (reason : String) (message : Option String) :
    (notified delivered reason message).Proper id := by
  apply proper_of_sandbox
  intro now r next hnext
  obtain ⟨-, ⟨⟩⟩ := Option.ite_none_left_eq_some.mp hnext
  rfl

theorem proper_recordSandbox {sandbox : SandboxRef} (h : sandbox.claim = TaskId.claimName id) :
    (recordSandbox sandbox).Proper id := by
  intro now r next _ hnext other hother
  obtain ⟨-, ⟨⟩⟩ := Option.ite_none_right_eq_some.mp hnext
  cases hother
  exact h

end Change

theorem rounds_telling {change : Change} (h : change.Proper id) :
    Store.Rounds (.telling id) (fun _ _ op => op.Concerns id) id change (fun _ _ _ => True)
      (fun _ q _ _ => q.record.BelongsTo id) (fun _ q _ _ _ => q.record.BelongsTo id)
      fun result _ _ => ∀ modified, result = .ok modified → modified.task.record.BelongsTo id where
  exhausted _ _ _ := by rintro _ ⟨⟩
  find _ _ _ _ _ _ := ⟨rfl, fun found _ hanswered => by
    match found, hanswered.2 with
    | .error e, _ | .ok none, _ => rintro _ ⟨⟩
    | .ok (some q), hbelongs => exact hbelongs⟩
  now _ _ _ _ hbelongs _ _ := ⟨trivial, fun _ _ _ => hbelongs⟩
  unchanged _ _ _ _ _ hbelongs _ := by
    rintro _ ⟨⟩
    exact hbelongs
  swap _ q now next hnext _ _ hbelongs _ _ := ⟨⟨rfl, h now q.record next hbelongs.bears hnext⟩,
    fun swapped _ hanswered => by
      match swapped, hanswered.2 with
      | .ok t, htells =>
          rintro _ ⟨⟩
          exact htells
      | .error (.conflict _), _ => trivial
      | .error (.notFound _), _ | .error (.alreadyExists _), _ | .error (.illegalTransition _ _ _), _
      | .error (.malformed _ _), _ | .error (.cluster _), _ => rintro _ ⟨⟩⟩

theorem modify_confined {change : Change} (h : change.Proper id) (past : History) :
    Confined id (fun result => ∀ modified, result = .ok modified → modified.task.record.BelongsTo id) past
      (Store.modify id change) :=
  (rounds_telling h).upholds Store.rounds trivial

namespace Reconcile

variable {p : Policy} {n : Callback.Notifier} {r : Record}

namespace Rule

def telling (id : String) : Rule Unit := ⟨.telling id, fun _ _ op => op.Concerns id, fun _ _ _ => True⟩

def Belongs (id : String) (r : Record) (_ : History) (_ : Unit) : Prop := r.BelongsTo id

theorem asks_belongs {op : Operation} (h : r.BelongsTo id → op.Concerns id) :
    Asks (telling id).around (telling id).may (Belongs id r) op fun _ => Belongs id r :=
  fun _ _ hbelongs _ _ => ⟨h hbelongs, fun _ _ _ => hbelongs⟩

theorem modify_belongs {change : Change} (h : change.Proper id) :
    (telling id).Triple (Belongs id r) (modify id change) fun modified past s =>
      Belongs id r past s ∧ Belongs id modified.task.record past s := by
  refine .ofStore fun past _ hbelongs => (modify_confined h past).mono fun _ _ result hmodified => ?_
  cases result with
  | ok modified => exact ⟨hbelongs, hmodified modified rfl⟩
  | error e => trivial

theorem cleans_telling (id : String) (r : Record) : (telling id).Cleans r (Belongs id r) where
  now := asks_belongs fun _ => trivial
  send _ _ _ _ := asks_belongs fun hbelongs => hbelongs.id
  deleteClaim := .deleteClaim (asks_belongs fun hbelongs => hbelongs.claim) fun _ _ _ _ => trivial
  sandboxDeleted reason := .given (fun _ _ hbelongs => hbelongs.id) fun hid => by
    subst hid
    exact (modify_belongs (Change.proper_sandboxDeleted reason)).mono fun _ _ _ h => h.1
  notified delivered reason message := .given (fun _ _ hbelongs => hbelongs.id) fun hid => by
    subst hid
    exact (modify_belongs (Change.proper_notified delivered reason message)).mono fun _ _ _ h => h.1

theorem steps_telling (p : Policy) (id : String) :
    (telling id).Steps p id (Belongs id) (Belongs id) fun _ _ _ => True where
  named _ _ _ h := h.id
  seen _ _ _ h := h
  cleans := cleans_telling id
  now _ := asks_belongs fun _ => trivial
  poll _ := .poll (asks_belongs fun hbelongs => hbelongs.claim) fun _ _ _ _ => trivial
  change _ _ h := modify_belongs h.proper
  requeue _ _ := .bind (.wait (asks_belongs fun _ => trivial)) fun _ => .pure fun _ _ _ => trivial
  again _ _ _ _ := trivial
  done _ _ _ _ := trivial

theorem walks_telling (p : Policy) (n : Callback.Notifier) (id : String) :
    (telling id).Walks p n id (fun _ _ => True) (Belongs id) (Belongs id) fun _ _ _ => True where
  toSteps := steps_telling p id
  find := .ofStore fun _ _ _ _ _ => ⟨rfl, fun found _ hanswered => by
    match found, hanswered.2 with
    | .error e, _ | .ok none, _ => trivial
    | .ok (some task), hbelongs => exact hbelongs⟩
  provision r hid := (steps_telling p id).provision (fun sandbox => sandbox.claim = TaskId.claimName id)
    (fun _ _ hbelongs _ _ => ⟨hbelongs.id, fun answer _ hanswered => ⟨hbelongs, by
      rintro sandbox rfl
      exact hanswered.2⟩⟩)
    fun sandbox hclaim => by
      subst hid
      exact (modify_belongs (Change.proper_recordSandbox hclaim)).mono fun _ _ _ h => h.1
  assign _ hid _ := (steps_telling p id).assign
    ⟨fun _ _ => asks_belongs fun hbelongs => hbelongs.id, fun _ _ h => modify_belongs h.proper⟩ hid

end Rule

theorem pass_confined : Confined id (fun _ => True) [] (pass p n id) :=
  ((Rule.walks_telling p n id).pass [] () trivial).mono fun _ _ _ _ => trivial

theorem releaseSandbox_confined (h : r.BelongsTo id) : Confined id (fun _ => True) [] (releaseSandbox r).run := by
  have hrelease : (Rule.telling id).Triple (Rule.Belongs id r) (releaseSandbox r) fun _ => Rule.Belongs id r :=
    .ite (fun _ => .bind (Rule.cleans_telling id r).deleteClaim fun _ => .pure fun _ _ h => h) fun _ => .pure fun _ _ h => h
  exact (hrelease [] () h).mono fun _ _ _ _ => trivial

end Reconcile

namespace Job

variable {past : History}

theorem report_confined (r : Report) : Confined id (fun _ => True) past (Report.apply id r) := by
  refine .bind ((modify_confined (Change.proper_of_makes (.report r) Bool.false_ne_true) past).mono ?_)
  intro _ _ result _
  match result with
  | .error e => cases e <;> exact trivial
  | .ok modified =>
      dsimp only
      split
      · exact trivial
      · split <;> exact trivial

theorem cancel_confined : Confined id (fun _ => True) past (Reconcile.cancel id) := by
  refine .bind ((modify_confined (Change.proper_of_makes .cancel Bool.false_ne_true) past).mono ?_)
  intro _ _ result _
  match result with
  | .ok modified => exact trivial
  | .error e => cases e <;> exact trivial

theorem release_confined : Confined id (fun _ => True) past (Credential.release id) :=
  .bind ((modify_confined (Change.proper_of_makes (.giveBack true) Bool.false_ne_true) past).mono fun _ _ _ _ => trivial)

theorem credential_confined (configured : Bool) : Confined id (fun _ => True) past (Credential.issue configured id) := by
  cases configured with
  | false => exact trivial
  | true =>
      refine .bind (.bind ((modify_confined (Change.proper_of_makes (.reserve true) Bool.false_ne_true) past).mono ?_))
      intro _ _ result _
      match result with
      | .error e => cases e <;> exact trivial
      | .ok (.unchanged t) =>
          simp only [Store.Modified.isApplied, Bool.false_eq_true, if_false]
          split <;> exact trivial
      | .ok (.applied t) =>
          refine fun _ _ => ⟨rfl, fun answer _ _ => ?_⟩
          cases answer with
          | ok grant => exact trivial
          | error e =>
              change Confined id _ _ (Credential.release id >>= fun _ => pure (Except.error (CredentialError.exchange e)))
              exact .bind (release_confined.mono fun _ _ _ _ => trivial)

theorem abandoned_confined {waiting : Operation} (h : waiting.Concerns id) :
    Confined id (fun _ => True) past (Credential.abandoned waiting) := by
  cases waiting with
  | exchange i repository =>
      obtain rfl : i = id := h
      exact release_confined
  | _ => exact trivial

theorem routine_confined (j : Job) (h : j.asked) : Confined id (fun _ => True) [] (j.routine id) := by
  cases j with
  | report r => exact report_confined r
  | cancel => exact cancel_confined
  | credential configured => exact credential_confined configured
  | pass policy notifier => exact Reconcile.pass_confined
  | leftover waiting => cases h

end Job

end SandboxTasks
