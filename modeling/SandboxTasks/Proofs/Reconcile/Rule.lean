import SandboxTasks.Proofs.Concurrent.Once
import SandboxTasks.Proofs.Reconcile.Walk

namespace SandboxTasks

open Store Callback

def Operation.isSend : Operation → Bool
  | .send _ _ _ => true
  | _ => false

def Turn.failure? : Turn → Option String
  | ⟨.send _ channel _, .error e⟩ => some (channel ++ ": " ++ e.message)
  | _ => none

namespace History

def deliveries (past : History) : List Turn := (past.filter (·.op.isSend)).reverse

theorem deliveries_cons (turn : Turn) (past : History) :
    deliveries (turn :: past) = if turn.op.isSend then deliveries past ++ [turn] else deliveries past := by
  unfold deliveries
  rw [List.filter_cons]
  split
  · exact List.reverse_cons
  · rfl

theorem deliveries_of_not_send {op : Operation} {a : op.Answer} {past : History} (h : op.isSend = false) :
    deliveries (⟨op, a⟩ :: past) = deliveries past := by
  rw [deliveries_cons, if_neg (by simp [h])]

theorem deliveries_outside (past : History) : past.outside.deliveries = past.deliveries := by
  unfold deliveries outside
  rw [List.filter_filter]
  congr 2
  funext turn
  obtain ⟨op, answer⟩ := turn
  cases op <;> rfl

/-- What came of the delivery: the first failure, if there was one. -/
def verdict (n : Notifier) (past : History) : Delivery :=
  if !n.hasChannels then .failed "no notification channel configured"
  else match past.deliveries.findSome? (·.failure?) with
    | none => .sent
    | some message => .failed message

/-- What is to be recorded of telling the outcome: whether it was told, the reason and a message. -/
def told (n : Notifier) (spec : TaskSpec) (past : History) : Bool × String × Option String :=
  match spec.callbackUrl with
  | none => (false, "NoCallback", none)
  | some _ => match past.verdict n with
    | .sent => (true, "CallbackSent", none)
    | .failed message => (false, "CallbackFailed", some message)

theorem told_congr {n : Notifier} {spec : TaskSpec} {past later : History} (h : later.deliveries = past.deliveries) :
    later.told n spec = past.told n spec := by
  unfold told verdict
  rw [h]

end History

def Callback.requests (event : Event) : Nat → List Channel → List Operation
  | _, [] => []
  | place, c :: cs =>
    if c.enabled then .send place c.name event :: requests event (place + 1) cs else requests event (place + 1) cs

theorem Callback.requests_cons (event : Event) (place : Nat) (c : Channel) (cs : List Channel) :
    requests event place (c :: cs) =
      if c.enabled then .send place c.name event :: requests event (place + 1) cs else requests event (place + 1) cs :=
  rfl

def Sandbox.State.IsGone : Sandbox.State → Prop
  | .exited _ | .absent => True
  | .ready _ | .unknown => False

def Phase.IsReady : Phase → Prop
  | .ready | .assigning | .running => True
  | _ => False

namespace Reconcile

def AssignmentFailed (id : String) (log : History) : Prop :=
  ∃ address api e rest, log = ⟨.assign address id api, .error e⟩ :: rest

/-- What a pass has found out that ends a task, which it knows as `r`, for a reason. -/
inductive Finds (alone : Prop) (p : Policy) (past : History) (r : Record) : EndReason → Prop
  | taskTimeout {now} (h : ⟨.now, now⟩ ∈ past) (hlate : hasElapsed now r.createdAt p.taskTimeout) :
      Finds alone p past r .taskTimeout
  | provisioningTimeout {now} (h : ⟨.now, now⟩ ∈ past) (hphase : r.status.phase = .provisioning)
      (hlate : hasElapsed now (r.status.provisioningSince.getD r.createdAt) p.provisioningWindow) :
      Finds alone p past r .provisioningTimeout
  | assignmentFailure (h : AssignmentFailed r.id past.outside)
      (hlimit : alone → p.assignmentMaxAttempts ≤ r.status.attempts + 1) : Finds alone p past r .assignmentFailure
  | runnerExited {sandbox state} {before : History} (h : past = ⟨.poll sandbox, .ok state⟩ :: before)
      (hgone : state.IsGone) (hshown : before.Shows r) (hphase : r.status.phase.IsReady) :
      Finds alone p past r .runnerExitedWithoutStatus

/-- What a pass has done, and what it knows of the task as `r`, where it decides on a change. -/
inductive Warranted (alone : Prop) (p : Policy) (n : Notifier) (past : History) (r : Record) : Change → Prop
  | startProvisioning : Warranted alone p n past r Change.startProvisioning
  | recordSandbox {q sandbox log} (h : past.outside = ⟨.provision q, .ok sandbox⟩ :: log) :
      Warranted alone p n past r (Change.recordSandbox sandbox)
  | forgetSandbox {sandbox log} (h : past.outside = ⟨.poll sandbox, .ok .absent⟩ :: log) :
      Warranted alone p n past r Change.forgetSandbox
  | markReady {sandbox address log} (h : past.outside = ⟨.poll sandbox, .ok (.ready address)⟩ :: log)
      (hsandbox : r.status.sandbox = some sandbox) : Warranted alone p n past r (Change.markReady address)
  | startAssigning : Warranted alone p n past r Change.startAssigning
  | assigned {address i api acceptance log} (h : past.outside = ⟨.assign address i api, .ok acceptance⟩ :: log) :
      Warranted alone p n past r Change.assigned
  | assignmentFailed {message counted} (h : AssignmentFailed r.id past.outside) :
      Warranted alone p n past r (Change.assignmentFailed message counted)
  | finish {reason message} (h : Finds alone p past r reason) :
      Warranted alone p n past r (Change.finish reason message)
  | sandboxDeleted {sandbox deletion log} (h : past.outside = ⟨.deleteClaim sandbox, .ok deletion⟩ :: log)
      (hended : r.status.phase.isTerminal) :
      Warranted alone p n past r (Change.sandboxDeleted (deletionReason deletion))
  | notified {delivered reason message} (h : (delivered, reason, message) = past.outside.told n r.spec)
      (hended : r.status.phase.isTerminal) (hdeleted : r.status.has .sandboxDeleted) :
      Warranted alone p n past r (Change.notified delivered reason message)

theorem Warranted.ofPass {alone : Prop} {p : Policy} {n : Notifier} {past : History} {r : Record} {change : Change}
    (h : Warranted alone p n past r change) : change.OfPass := by
  cases h <;> constructor

theorem Warranted.condition? {alone : Prop} {p : Policy} {n : Notifier} {past : History} {q r : Record}
    {change : Change} {now : Instant} {next : Status} (h : Warranted alone p n past q change)
    (hchange : change now r = some next) (kind : Condition.Kind) (hkind : kind.OfCleanup) :
    next.condition? kind = r.status.condition? kind ∨
      (kind = .sandboxDeleted ∧ ∃ sandbox deletion rest, past.outside = ⟨.deleteClaim sandbox, .ok deletion⟩ :: rest) ∨
      (kind = .notified ∧ ∃ delivered reason message, (delivered, reason, message) = past.outside.told n q.spec ∧
        next.condition? kind = some ⟨kind, delivered, reason, message, now⟩) := by
  have hkept (hsame : next.conditions = r.status.conditions) :
      next.condition? kind = r.status.condition? kind := by
    rw [Status.condition?, hsame]
    rfl
  cases h with
  | sandboxDeleted hdeletion =>
      obtain ⟨-, he⟩ := Option.ite_none_left_eq_some.mp hchange
      cases he
      by_cases hsame : kind = .sandboxDeleted
      · exact .inr (.inl ⟨hsame, _, _, _, hdeletion⟩)
      · exact .inl (Condition.find?_set_of_ne (Ne.symm hsame))
  | notified htold =>
      obtain ⟨hnew, he⟩ := Option.ite_none_left_eq_some.mp hchange
      cases he
      by_cases hsame : kind = .notified
      · subst hsame
        have hnone : r.status.condition? .notified = none := Status.condition?_eq_none.mpr (by simpa using hnew)
        exact .inr (.inr ⟨rfl, _, _, _, htold, Condition.find?_set_self hnone⟩)
      · exact .inl (Condition.find?_set_of_ne (Ne.symm hsame))
  | markReady =>
      obtain ⟨-, he⟩ := Option.ite_none_right_eq_some.mp hchange
      cases he
      refine .inl (Condition.find?_set_of_ne ?_)
      rintro rfl
      exact hkind
  | assigned =>
      obtain ⟨-, he⟩ := Option.ite_none_right_eq_some.mp hchange
      cases he
      exact .inl (hkept (Change.conditions_noteWorker r.status))
  | recordSandbox | forgetSandbox | startProvisioning | startAssigning | assignmentFailed =>
      obtain ⟨-, he⟩ := Option.ite_none_right_eq_some.mp hchange
      cases he
      exact .inl (hkept rfl)
  | finish => exact .inl (hkept (by rw [Change.terminate_eq hchange]))

/-- A pass makes a change of `seen`, on which it has decided when it knew the task as it was before. -/
inductive Decides (alone : Prop) (p : Policy) (n : Notifier) (past : History) (seen : Record) (change : Change) : Prop
  | intro {earlier : History} {r : Record} (hpast : earlier <:+ past) (hlog : earlier.outside = past.outside)
      (hshown : earlier.Shows r) (hbecomes : r.Becomes alone seen) (h : Warranted alone p n earlier r change)

/-- The address is one that was told in a poll, or it is on record. -/
def Located (alone : Prop) (address : String) (past : History) (r : Record) : Prop :=
  (∃ sandbox, ⟨.poll sandbox, .ok (.ready address)⟩ ∈ past.outside) ∨ (alone → r.sandbox.address = some address)

structure Due (alone : Prop) (r : Record) : Prop where
  ended : r.status.phase.isTerminal
  deleted : r.status.has .sandboxDeleted
  untold : alone → r.status.has .notified = false

variable {id : String} (C : Contract id) (alone : Prop) (p : Policy) (n : Notifier)

def Calls (past : History) (s : C.State) : Operation → Prop
  | .now => True
  | .find i => i = id
  | .poll sandbox => ∃ r, Known C alone past s r ∧ sandbox = r.sandbox
  | .assign address i _ => i = id ∧ ∃ r, Known C alone past s r ∧ r.status.phase = .assigning ∧
      Located alone address past r
  | .swap i version status => i = id ∧ ∃ seen now change, C.Knows s seen ∧ seen.version = version ∧
      change now seen.record = some status ∧ Decides alone p n past seen.record change ∧
      past.head? = some ⟨.now, now⟩
  | .provision r => Known C alone past s r ∧ r.status.phase = .provisioning ∧ r.status.sandbox = none ∧
      past.outside = []
  | .deleteClaim sandbox => ∃ r, Known C alone past s r ∧ r.status.phase.isTerminal ∧ sandbox = r.sandbox
  | .send place channel event => ∃ r now url, Known C alone past s r ∧ Due alone r ∧ r.spec.callbackUrl = some url ∧
      event = outcomeEvent now url r ∧
      past.outside.deliveries.map (·.op) ++ [.send place channel event] <+: Callback.requests event 0 n.channels
  | _ => False

/-- Where a pass may halt; `ended` says that it found the task ended. -/
def Halts (ended : Prop) (past : History) (s : C.State) : Error → Prop
  | .store _ => (ended ∨ past.outside.deliveries ≠ []) → alone → C.Reliable → C.current s = none
  | .provision e => past.outside.deliveries = [] ∧
      ((∃ sandbox rest, past.outside = ⟨.deleteClaim sandbox, .error e⟩ :: rest ∧
        ∃ r, Known C False past s r ∧ r.status.phase.isTerminal) ∨
      ¬ ended ∧ ∃ sandbox rest, past.outside = ⟨.poll sandbox, .error e⟩ :: rest)

def Holds (knows : History → Record → Prop) (past : History) (s : C.State) : Prop :=
  ∃ r, Known C alone past s r ∧ knows past r

def Rule.ofContract (ended : Prop) : Rule C.State := ⟨C.among alone, Calls C alone p n, Halts C alone ended⟩

/-- From where a pass knows a record of which `knows` is true, the steps keep to its rule and yield as stated. -/
def Guarantees {α : Type} (ended : Prop) (knows : History → Record → Prop) (x : Step α)
    (yields : α → History → Record → Prop) : Prop :=
  (Rule.ofContract C alone p n ended).Triple (Holds C alone knows) x fun a => Holds C alone (yields a)

inductive Turned (past : History) (r : Record) (change : Change) : Modified → Prop
  | applied {q t : Versioned} (hbecomes : r.Becomes alone q.record) (hwrote : past.Wrote q change t) :
      Turned past r change (.applied t)
  | unchanged {t : Versioned} {now : Instant} (hbecomes : r.Becomes alone t.record)
      (hnone : change now t.record = none) : Turned past r change (.unchanged t)

variable {C alone p n} {α β : Type} {ended : Prop} {knows knows' : History → Record → Prop}
  {yields : α → History → Record → Prop}

namespace Guarantees

theorem weaken {x : Step α} (h : Guarantees C alone p n ended knows x yields)
    (hknows : ∀ past r, knows' past r → knows past r) :
    Guarantees C alone p n ended knows' x yields :=
  Rule.Triple.weaken h fun past _ hs => hs.imp fun r hr => ⟨hr.1, hknows past r hr.2⟩

theorem pure {a : α} (h : ∀ past r, knows past r → yields a past r) : Guarantees C alone p n ended knows (pure a) yields :=
  fun past _ hs => hs.imp fun r hr => ⟨hr.1, h past r hr.2⟩

theorem bind {x : Step α} {f : α → Step β} {ends : β → History → Record → Prop}
    (hx : Guarantees C alone p n ended knows x yields)
    (hf : ∀ a, Guarantees C alone p n ended (yields a) (f a) ends) :
    Guarantees C alone p n ended knows (x >>= f) ends :=
  Rule.Triple.bind hx hf

theorem ite {c : Prop} [Decidable c] {x y : Step α} (hx : c → Guarantees C alone p n ended knows x yields)
    (hy : ¬ c → Guarantees C alone p n ended knows y yields) :
    Guarantees C alone p n ended knows (if c then x else y) yields :=
  Rule.Triple.ite hx hy

theorem wait {op : Operation} {answers : op.Answer → History → Record → Prop} (hop : ¬ op.WritesTo id)
    (hcalls : ∀ past s r, Known C alone past s r → knows past r → Calls C alone p n past s op)
    (hanswers : ∀ a past r, knows past r → answers a (⟨op, a⟩ :: past) r) :
    Guarantees C alone p n ended knows (wait op) answers := by
  rintro past s ⟨r, hr, hpast⟩ s₁ h₁
  refine ⟨hcalls past s₁ r (hr.carry h₁) hpast, fun a s₂ hs => ?_⟩
  exact ⟨r, (hr.carry h₁).served hs (C.elsewhere hs hop), hanswers a past r hpast⟩

theorem now (hkeeps : ∀ a past r, knows past r → knows (⟨.now, a⟩ :: past) r) :
    Guarantees C alone p n ended knows (SandboxTasks.Reconcile.wait .now) fun now past r =>
      knows past r ∧ ⟨.now, now⟩ ∈ past :=
  .wait (by simp) (fun _ _ _ _ _ => trivial) fun a past r h => ⟨hkeeps a past r h, .head _⟩

theorem modify {change : Change} {turns : Modified → History → Record → Prop}
    (hwarranted : ∀ past r, r.id = id → knows past r → Warranted alone p n past r change)
    (hhalts : ∀ past r, knows past r → ended ∨ past.outside.deliveries ≠ [] → r.status.phase.isTerminal)
    (hturns : ∀ past past' r modified, r.id = id → knows past r → past'.outside = past.outside →
      Turned alone past' r change modified → turns modified past' modified.task.record) :
    Guarantees C alone p n ended knows (modify id change) turns := by
  refine .ofStore ?_
  rintro past s ⟨r, hr, hpast⟩
  have hchange := hwarranted past r hr.id hpast
  have hallows : Allows C (fun past' s' op => past <:+ past' → Calls C alone p n past' s' op) (r.Becomes alone ·)
      past.outside change := {
    find := fun _ _ _ _ => rfl
    now := fun _ _ _ _ => trivial
    swap := fun past' s' seen now next hlog hseen hknows hnext hclock hlater =>
      ⟨rfl, seen, now, change, hknows, rfl, hnext, .intro hlater hlog.symm hr.shown hseen hchange, hclock⟩ }
  have hchanged := modify_upholds hallows (fun _ _ _ hnext => hchange.ofPass.follows hnext)
    (fun q t h hq => hq.trans h) rfl hr.becomes
  refine (hchanged.of_later (List.suffix_refl past)).mono fun past' s' result h => ?_
  match result with
  | .ok (.unchanged t) =>
      obtain ⟨hlog, hknown, hbecomes, now, hnone⟩ := h
      exact ⟨t.record, hknown, hturns past past' r _ hr.id hpast hlog (.unchanged hbecomes hnone)⟩
  | .ok (.applied t) =>
      obtain ⟨hlog, hknown, q, hbecomes, hwrote⟩ := h
      exact ⟨t.record, hknown, hturns past past' r _ hr.id hpast hlog (.applied hbecomes hwrote)⟩
  | .error e =>
      obtain ⟨hlog, -, hgone⟩ := h
      intro hended halone hreliable
      rw [hlog] at hended
      exact hgone halone hreliable fun q hq => hq.isTerminal (hhalts past r hpast hended)

end Guarantees

end Reconcile

end SandboxTasks
