import SandboxTasks.Proofs.Concurrent.Job

namespace SandboxTasks

/-- The changes of a pass that neither record a sandbox nor have to do with handing the task over. -/
inductive Change.OfAdvance : Change → Prop
  | startProvisioning : OfAdvance Change.startProvisioning
  | forgetSandbox : OfAdvance Change.forgetSandbox
  | markReady (address) : OfAdvance (Change.markReady address)
  | finish {reason} (h : reason ≠ .assignmentFailure) (message) : OfAdvance (Change.finish reason message)

inductive Change.OfHandover : Change → Prop
  | startAssigning : OfHandover Change.startAssigning
  | assigned : OfHandover Change.assigned
  | assignmentFailed (message counted) : OfHandover (Change.assignmentFailed message counted)
  | finish (message) : OfHandover (Change.finish .assignmentFailure message)

theorem Change.OfHandover.ofPass {change : Change} (h : change.OfHandover) : change.OfPass := by
  cases h <;> constructor

theorem Change.OfAdvance.ofPass {change : Change} (h : change.OfAdvance) : change.OfPass := by
  cases h <;> constructor

namespace Reconcile

open Callback

variable {σ : Type} {α β : Type}

/-- What a pass is held to: what surrounds it, which requests it may make, and where its steps may halt. -/
structure Rule (σ : Type) where
  around : Surroundings σ
  may : History → σ → Operation → Prop
  halts : History → σ → Error → Prop

namespace Rule

def Settles (R : Rule σ) (post : α → History → σ → Prop) (past : History) (s : σ) : Except Error α → Prop
  | .ok a => post a past s
  | .error e => R.halts past s e

/-- Taken where `pre` holds, the steps keep to the rule, and where they are not halted `post` holds of what they
yield. -/
def Triple (R : Rule σ) (pre : History → σ → Prop) (x : Step α) (post : α → History → σ → Prop) : Prop :=
  ∀ past s, pre past s → Upholds R.around R.may (R.Settles post) past s x.run

variable {R : Rule σ} {pre pre' : History → σ → Prop}

namespace Triple

variable {post post' : α → History → σ → Prop} {x y : Step α}

theorem weaken (h : R.Triple pre x post) (hpre : ∀ past s, pre' past s → pre past s) : R.Triple pre' x post :=
  fun past s hs => h past s (hpre past s hs)

theorem mono (h : R.Triple pre x post) (hpost : ∀ a past s, post a past s → post' a past s) :
    R.Triple pre x post' := by
  refine fun past s hs => (h past s hs).mono fun past s result hsettles => ?_
  cases result with
  | ok a => exact hpost a past s hsettles
  | error e => exact hsettles

theorem pure {a : α} (h : ∀ past s, pre past s → post a past s) : R.Triple pre (pure a) post := h

theorem bind {f : α → Step β} {ends : β → History → σ → Prop} (hx : R.Triple pre x post)
    (hf : ∀ a, R.Triple (post a) (f a) ends) : R.Triple pre (x >>= f) ends := by
  refine fun past s hs => Upholds.bind ((hx past s hs).mono fun past s result h => ?_)
  cases result with
  | ok a => exact hf a past s h
  | error e => exact h

theorem ite {c : Prop} [Decidable c] (hx : c → R.Triple pre x post) (hy : ¬ c → R.Triple pre y post) :
    R.Triple pre (if c then x else y) post := by
  by_cases h : c
  · rw [if_pos h]
    exact hx h
  · rw [if_neg h]
    exact hy h

/-- A fact that goes without the state may be used throughout. -/
theorem given {fact : Prop} (h : ∀ past s, pre past s → fact) (hx : fact → R.Triple pre x post) :
    R.Triple pre x post :=
  fun past s hs => hx (h past s hs) past s hs

theorem lift {p : Routine α} (h : ∀ past s, pre past s → Upholds R.around R.may (fun past s a => post a past s) past s p) :
    R.Triple pre (ExceptT.lift p) post :=
  fun past s hs => Upholds.bind ((h past s hs).mono fun _ _ _ ha => ha)

theorem wait {op : Operation} {post : op.Answer → History → σ → Prop} (h : Asks R.around R.may pre op post) :
    R.Triple pre (wait op) post := h

theorem ofSandbox {p : Routine (Except ProvisionError α)}
    (h : ∀ past s, pre past s → Upholds R.around R.may
      (fun past s answer => R.Settles post past s (answer.mapError .provision)) past s p) :
    R.Triple pre (ofSandbox p) post :=
  fun past s hs => Upholds.bind ((h past s hs).mono fun _ _ _ ha => ha)

theorem ofStore {p : Routine (Except StoreError α)}
    (h : ∀ past s, pre past s → Upholds R.around R.may
      (fun past s answer => R.Settles post past s (answer.mapError .store)) past s p) :
    R.Triple pre (ofStore p) post :=
  fun past s hs => Upholds.bind ((h past s hs).mono fun _ _ _ ha => ha)

theorem poll {sandbox : SandboxRef} {inv : History → σ → Prop}
    (h : Asks R.around R.may pre (.poll sandbox) fun _ => inv)
    (hhalts : ∀ e past s, inv past s → R.halts past s (.provision e)) :
    R.Triple pre (Reconcile.ofSandbox (ask (.poll sandbox))) fun _ => inv := by
  refine .ofSandbox fun past s hs s₁ h₁ => ⟨(h past s hs s₁ h₁).1, fun answer s₂ hanswer => ?_⟩
  have hinv := (h past s hs s₁ h₁).2 answer s₂ hanswer
  cases answer with
  | ok state => exact hinv
  | error e => exact hhalts e _ s₂ hinv

theorem deleteClaim {sandbox : SandboxRef} {inv : History → σ → Prop}
    (h : Asks R.around R.may pre (.deleteClaim sandbox) fun _ => inv)
    (hhalts : ∀ e past s, inv past s → R.halts past s (.provision e)) :
    R.Triple pre (Reconcile.ofSandbox (ask (.deleteClaim sandbox))) fun _ => inv := by
  refine .ofSandbox fun past s hs s₁ h₁ => ⟨(h past s hs s₁ h₁).1, fun answer s₂ hanswer => ?_⟩
  have hinv := (h past s hs s₁ h₁).2 answer s₂ hanswer
  cases answer with
  | ok deletion => exact hinv
  | error e => exact hhalts e _ s₂ hinv

end Triple

/-- What is asked of a rule for cleaning up: `inv` holds all along. -/
structure Cleans (R : Rule σ) (r : Record) (inv : History → σ → Prop) : Prop where
  now : Asks R.around R.may inv .now fun _ => inv
  send : ∀ now url place channel,
    Asks R.around R.may inv (.send place channel (outcomeEvent now url r)) fun _ => inv
  deleteClaim : R.Triple inv (Reconcile.ofSandbox (ask (.deleteClaim r.sandbox))) fun _ => inv
  sandboxDeleted : ∀ reason, R.Triple inv (modify r.id (Change.sandboxDeleted reason)) fun _ => inv
  notified : ∀ delivered reason message,
    R.Triple inv (modify r.id (Change.notified delivered reason message)) fun _ => inv

variable {r : Record} {inv : History → σ → Prop} {p : Policy} {n : Notifier} {id : String}

theorem sendAll_upholds {event : Event}
    (hsend : ∀ place channel, Asks R.around R.may inv (.send place channel event) fun _ => inv) (place : Nat)
    (channels : List Channel) {past : History} {s : σ} (h : inv past s) :
    Upholds R.around R.may (fun past s _ => inv past s) past s (Notifier.sendAll event place channels) := by
  induction channels generalizing place past s with
  | nil => exact h
  | cons c cs ih =>
      unfold Notifier.sendAll
      split
      · refine Upholds.ask (fun past s h s₁ h₁ => ?_) h
        obtain ⟨hmay, hsent⟩ := hsend place c.name past s h s₁ h₁
        refine ⟨hmay, fun answer s₂ hs => ?_⟩
        cases answer with
        | ok _ => exact ih _ (hsent _ s₂ hs)
        | error e => exact Upholds.bind ((ih _ (hsent _ s₂ hs)).mono fun _ _ _ h => h)
      · exact ih _ h

namespace Cleans

variable (h : R.Cleans r inv)

include h

theorem tellOutcome : R.Triple inv (ExceptT.lift (tellOutcome n r)) fun change past s => inv past s ∧
    ∃ delivered reason message, change = Change.notified delivered reason message := by
  refine .lift fun past s hs => ?_
  unfold Reconcile.tellOutcome
  split
  · exact ⟨hs, _, _, _, rfl⟩
  · next url _ =>
      refine Upholds.ask (fun past s hs s₁ h₁ => ?_) hs
      obtain ⟨hmay, hnow⟩ := h.now past s hs s₁ h₁
      refine ⟨hmay, fun now s₂ hs => ?_⟩
      unfold Notifier.deliver
      split
      · exact ⟨hnow now s₂ hs, _, _, _, rfl⟩
      · have hsent := sendAll_upholds (h.send now url) 0 n.channels (hnow now s₂ hs)
        refine Upholds.bind (Upholds.bind (hsent.mono fun past s failure hs => ?_))
        cases failure with
        | none => exact ⟨hs, _, _, _, rfl⟩
        | some message => exact ⟨hs, _, _, _, rfl⟩

theorem cleanup : R.Triple inv (cleanup n r) fun outcome past s => outcome = .done ∧ inv past s := by
  have hdone : R.Triple inv (Pure.pure Outcome.done) fun outcome past s => outcome = .done ∧ inv past s :=
    .pure fun _ _ hs => ⟨rfl, hs⟩
  have htell : R.Triple inv (if !r.status.has .notified then do
      let change ← ExceptT.lift (Reconcile.tellOutcome n r)
      let _ ← modify r.id change
      return Outcome.done else return Outcome.done) fun outcome past s => outcome = .done ∧ inv past s := by
    refine .ite (fun _ => .bind h.tellOutcome fun change => .given (fun _ _ hs => hs.2) ?_) fun _ => hdone
    rintro ⟨delivered, reason, message, rfl⟩
    exact .bind ((h.notified delivered reason message).weaken fun _ _ hs => hs.1) fun _ => hdone
  refine .ite (fun _ => .bind h.deleteClaim fun deletion => ?_) fun _ => htell
  exact .bind (h.sandboxDeleted _) fun _ => htell

end Cleans

variable {saw reads : Record → History → σ → Prop} {rests : Outcome → History → σ → Prop}

/-- What is asked of a rule for the steps of a pass. Where it goes on with a record it `reads` that, and later on it
still `saw` it. -/
structure Steps (R : Rule σ) (p : Policy) (id : String) (reads saw : Record → History → σ → Prop)
    (rests : Outcome → History → σ → Prop) : Prop where
  named : ∀ r past s, reads r past s → r.id = id
  seen : ∀ r past s, reads r past s → saw r past s
  cleans : ∀ r, R.Cleans r (saw r)
  now : ∀ r, Asks R.around R.may (reads r) .now fun _ => reads r
  poll : ∀ r, R.Triple (reads r) (Reconcile.ofSandbox (ask (.poll r.sandbox))) fun _ => reads r
  change : ∀ r change, change.OfAdvance → R.Triple (reads r) (modify id change) fun modified past s =>
    saw r past s ∧ reads modified.task.record past s
  requeue : ∀ r after, R.Triple (saw r) (requeue p r after) rests
  again : ∀ r past s, reads r past s → rests (.requeue .zero) past s
  done : ∀ r past s, saw r past s → rests .done past s

structure HandsOver (R : Rule σ) (p : Policy) (id : String) (reads saw : Record → History → σ → Prop) : Prop where
  assign : ∀ r address, Asks R.around R.may (saw r) (.assign address r.id p.callbackApi) fun _ => saw r
  change : ∀ r change, change.OfHandover → R.Triple (saw r) (modify id change) fun modified past s =>
    saw r past s ∧ reads modified.task.record past s

namespace Steps

variable (h : R.Steps p id reads saw rests)

include h

theorem cleanup : R.Triple (saw r) (cleanup n r) rests := by
  refine (h.cleans r).cleanup.mono fun outcome past s hs => ?_
  rw [hs.1]
  exact h.done r past s hs.2

theorem finish {reason : EndReason} (hreason : reason ≠ .assignmentFailure) (message : String) :
    R.Triple (reads r) (finish n id reason message) rests :=
  .bind (h.change r _ (.finish hreason _)) fun _ => h.cleanup.weaken fun _ _ hs => h.seen _ _ _ hs.2

theorem provision (offered : SandboxRef → Prop)
    (hprovision : Asks R.around R.may (reads r) (.provision r) fun answer past s =>
      saw r past s ∧ ∀ sandbox, answer = .ok sandbox → offered sandbox)
    (hrecord : ∀ sandbox, offered sandbox →
      R.Triple (saw r) (modify r.id (Change.recordSandbox sandbox)) fun _ => saw r) :
    R.Triple (reads r) (provision p r) rests := by
  refine .bind (.wait hprovision) fun answer => ?_
  match answer with
  | .error _ => exact (h.requeue r _).weaken fun _ _ hs => hs.1
  | .ok sandbox =>
      refine .given (fun _ _ hs => hs.2 sandbox rfl) fun hoffered => ?_
      exact .bind ((hrecord sandbox hoffered).weaken fun _ _ hs => hs.1) fun _ => h.requeue r _

variable (hands : R.HandsOver p id reads saw)

include hands

theorem handOver (hid : r.id = id) (address : String) : R.Triple (saw r) (handOver p n r address) rests := by
  subst hid
  have hchange (change : Change) (hof : change.OfHandover) (after : Duration) : R.Triple (saw r) (do
      let _ ← modify r.id change
      Reconcile.requeue p r after) rests :=
    .bind (hands.change r change hof) fun _ => (h.requeue r after).weaken fun _ _ hs => hs.1
  refine .bind (.wait (hands.assign r address)) fun answer => ?_
  match answer with
  | .ok _ => exact hchange _ .assigned _
  | .error e =>
      refine .bind (.wait (h.cleans r).now) fun now => .ite (fun _ => hchange _ (.assignmentFailed ..) _) fun _ => ?_
      refine .ite (fun _ => ?_) fun _ => hchange _ (.assignmentFailed ..) _
      exact .bind (hands.change r _ (.finish _)) fun _ => h.cleanup.weaken fun _ _ hs => h.seen _ _ _ hs.2

theorem announce (hid : r.id = id) (address : String) : R.Triple (saw r) (announce p n r address) rests := by
  subst hid
  refine .ite (fun _ => .bind (hands.change r _ .startAssigning) fun _ => .ite (fun _ => ?_) fun _ => ?_) fun _ => ?_
  · exact .pure fun past s hs => h.again _ past s hs.2
  · exact (h.handOver hands rfl address).weaken fun _ _ hs => hs.1
  · exact h.handOver hands rfl address

theorem assign (hid : r.id = id) : R.Triple (reads r) (assign p n r) rests := by
  subst hid
  refine .bind (h.poll r) fun state => ?_
  match state with
  | .ready address => exact (h.announce hands rfl address).weaken (h.seen r)
  | .unknown =>
      cases haddress : r.sandbox.address with
      | some address => simpa only [haddress] using (h.announce hands rfl address).weaken (h.seen r)
      | none => simpa only [haddress] using (h.requeue r _).weaken (h.seen r)
  | .exited _ | .absent => exact h.finish (by decide) _

end Steps

structure Walks (R : Rule σ) (p : Policy) (n : Notifier) (id : String) (start : History → σ → Prop)
    (reads saw : Record → History → σ → Prop) (rests : Outcome → History → σ → Prop) : Prop
    extends R.Steps p id reads saw rests where
  find : R.Triple start (Reconcile.ofStore (ask (.find id))) fun
    | none => rests .done
    | some task => reads task.record
  provision : ∀ r, r.id = id → R.Triple (reads r) (provision p r) rests
  assign : ∀ r, r.id = id → r.status.phase = .ready ∨ r.status.phase = .assigning →
    R.Triple (reads r) (assign p n r) rests

namespace Walks

variable {start : History → σ → Prop} (h : R.Walks p n id start reads saw rests)

include h

theorem markReady (address : String) : R.Triple (reads r) (markReady p n id address) rests := by
  refine .bind (h.change r _ (.markReady address)) fun modified => .given (fun past s hs => h.named _ past s hs.2) ?_
  refine fun hid => .ite (fun hready => ?_) fun _ => .pure fun past s hs => h.again _ past s hs.2
  exact (h.assign _ hid (.inl hready)).weaken fun _ _ hs => hs.2

theorem awaitReadiness (hid : r.id = id) : R.Triple (reads r) (awaitReadiness p n r) rests := by
  subst hid
  have hlook (state : Sandbox.State) : R.Triple (reads r) (if state = .absent then do
      let _ ← modify r.id Change.forgetSandbox
      Reconcile.requeue p r p.provisioningPoll
    else Reconcile.requeue p r p.provisioningPoll) rests := by
    refine .ite (fun _ => .bind (h.change r _ .forgetSandbox) fun _ => ?_) fun _ => ?_
    · exact (h.requeue r _).weaken fun _ _ hs => hs.1
    · exact (h.requeue r _).weaken (h.seen r)
  refine .bind (.wait (h.now r)) fun now => ?_
  cases hsandbox : r.status.sandbox with
  | none => exact .ite (fun _ => h.finish (by decide) _) fun _ => h.provision r rfl
  | some sandbox =>
      have hpoll := h.poll r
      rw [Record.sandbox, hsandbox, Option.getD_some] at hpoll
      refine .bind hpoll fun state => ?_
      match state with
      | .ready address => exact h.markReady address
      | .exited _ | .unknown | .absent => exact .ite (fun _ => h.finish (by decide) _) fun _ => hlook _

theorem startProvisioning (hid : r.id = id) : R.Triple (reads r) (startProvisioning p n r) rests := by
  subst hid
  refine .bind (h.change r _ .startProvisioning) fun modified => .given (fun past s hs => h.named _ past s hs.2) ?_
  refine fun hid => .ite (fun _ => ?_) fun _ => .pure fun past s hs => h.again _ past s hs.2
  exact (h.awaitReadiness hid).weaken fun _ _ hs => hs.2

theorem watch (hid : r.id = id) : R.Triple (reads r) (watch p n r) rests := by
  subst hid
  refine .bind (h.poll r) fun state => ?_
  match state with
  | .ready _ | .unknown => exact (h.requeue r _).weaken (h.seen r)
  | .exited _ | .absent => exact h.finish (by decide) _

theorem advance (hid : r.id = id) : R.Triple (reads r) (advance p n r) rests := by
  unfold Reconcile.advance
  split
  · exact h.startProvisioning hid
  · exact h.awaitReadiness hid
  · next hphase => exact h.assign r hid (.inl hphase)
  · next hphase => exact h.assign r hid (.inr hphase)
  · exact h.watch hid
  all_goals exact h.cleanup.weaken (h.seen r)

theorem pass : R.Triple start (pass p n id) rests := by
  refine .bind h.find fun found => ?_
  cases found with
  | none => exact .pure fun _ _ hs => hs
  | some task =>
      refine .given (h.named task.record) fun hid => ?_
      subst hid
      refine .ite (fun _ => h.cleanup.weaken (h.seen _)) fun _ => .bind (.wait (h.now _)) fun now => ?_
      exact .ite (fun _ => h.finish (by decide) _) fun _ => h.advance rfl

end Walks

end Rule

end Reconcile

end SandboxTasks
