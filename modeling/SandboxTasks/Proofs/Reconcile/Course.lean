import SandboxTasks.Proofs.Reconcile.Rule

namespace SandboxTasks

open Store Callback

theorem Record.Becomes.has_eq {alone : Prop} {r q : Record} {kind : Condition.Kind} (h : r.Becomes alone q)
    (halone : alone) (hkind : kind ≠ .tokenIssued) : q.status.has kind = r.status.has kind := by
  rw [Status.has, Status.has, h.conditions halone kind hkind]

namespace Reconcile

variable {id : String} {C : Contract id} {alone ended : Prop} {n : Notifier} {p : Policy} {r t : Record}
  {past : History} {s : C.State} {modified : Modified} {change : Change}

namespace Turned

theorem becomes (h : Turned alone past r change modified) (hpass : change.OfPass) :
    r.Becomes False modified.task.record := by
  cases h with
  | unchanged hbecomes => exact hbecomes.weaken
  | applied hbecomes hwrote =>
      obtain ⟨-, now, next, hnext, hrecord, -⟩ := hwrote
      have hown := hpass.becomes hnext
      rw [← hrecord] at hown
      exact hbecomes.weaken.trans hown

theorem id_eq (h : Turned alone past r change modified) : modified.task.record.id = r.id := by
  cases h with
  | unchanged hbecomes => exact hbecomes.id
  | applied hbecomes hwrote =>
      obtain ⟨-, now, next, -, hrecord, -⟩ := hwrote
      simp only [Modified.task, hrecord]
      exact hbecomes.id

theorem finish {reason : EndReason} {message : Option String}
    (h : Turned alone past r (Change.finish reason message) modified) :
    modified.task.record.status.phase.isTerminal := by
  cases h with
  | unchanged _ hnone => exact Status.terminate_eq_none.mp hnone
  | applied _ hwrote =>
      obtain ⟨-, now, next, hnext, hrecord, -⟩ := hwrote
      simp only [Modified.task, hrecord, Change.terminate_eq hnext]
      exact EndReason.isTerminal_phase reason

theorem sandboxDeleted {reason : String} (h : Turned alone past r (Change.sandboxDeleted reason) modified) :
    modified.task.record.status.has .sandboxDeleted ∧
      (alone → modified.task.record.status.has .notified = r.status.has .notified) := by
  cases h with
  | @unchanged t now hbecomes hnone =>
      have hhas : t.record.status.has .sandboxDeleted := by simpa using ite_eq_left_iff.mp hnone
      exact ⟨hhas, fun halone => hbecomes.has_eq halone (by decide)⟩
  | @applied q t hbecomes hwrote =>
      obtain ⟨-, now, next, hnext, hrecord, -⟩ := hwrote
      obtain ⟨-, hnext⟩ := Option.ite_none_left_eq_some.mp hnext
      cases hnext
      simp only [Modified.task, hrecord, Status.has_setCondition]
      refine ⟨by simp, fun halone => ?_⟩
      rw [← hbecomes.has_eq halone (by decide)]
      simp

theorem notified {delivered : Bool} {reason : String} {message : Option String}
    (h : Turned alone past r (Change.notified delivered reason message) modified) :
    modified.task.record.status.has .notified ∧
      (alone → r.status.has .notified = false → 0 < past.turned (·.has .notified)) := by
  cases h with
  | @unchanged t now hbecomes hnone =>
      have hhas : t.record.status.has .notified := by simpa using ite_eq_left_iff.mp hnone
      refine ⟨hhas, fun halone hfree => ?_⟩
      rw [← hbecomes.has_eq halone (by decide)] at hfree
      exact absurd (hfree.symm.trans hhas) (by decide)
  | @applied q t hbecomes hwrote =>
      have hafter : t.record.status.has .notified ∧ q.record.status.has .notified = false := by
        obtain ⟨-, now, next, hnext, hrecord, -⟩ := hwrote
        obtain ⟨hnew, hnext⟩ := Option.ite_none_left_eq_some.mp hnext
        cases hnext
        rw [hrecord]
        exact ⟨by simp, by simpa using hnew⟩
      exact ⟨hafter.1, fun _ _ => hwrote.turned hafter.2 hafter.1⟩

theorem startAssigning (h : Turned alone past r Change.startAssigning modified) (halone : alone) :
    r.status.SameCourse modified.task.record.status := by
  cases h with
  | unchanged hbecomes => exact hbecomes.course halone
  | applied hbecomes hwrote =>
      obtain ⟨-, now, next, hnext, hrecord, -⟩ := hwrote
      obtain ⟨-, hnext⟩ := Option.ite_none_right_eq_some.mp hnext
      cases hnext
      simp only [Modified.task, hrecord]
      exact (hbecomes.course halone).trans ⟨rfl, rfl, rfl, rfl⟩

end Turned

/-- How a pass may come to rest. One that told the outcome has recorded so itself. -/
def Rests (alone ended : Prop) : Outcome → History → Record → Prop
  | .requeue _, past, _ => ¬ ended ∧ past.outside.deliveries = []
  | .done, past, r => r.status.phase.isTerminal ∧ r.status.has .sandboxDeleted ∧ r.status.has .notified ∧
      (alone → past.outside.deliveries ≠ [] → 0 < past.turned (·.has .notified))

theorem outcomeEvent_eq (now : Instant) (url : String) (h : r.Becomes False t) (hr : r.status.phase.isTerminal) :
    outcomeEvent now url r = outcomeEvent now url t := by
  have hend := h.ended hr
  unfold outcomeEvent
  rw [h.id, hend.phase, hend.reason, hend.pullRequest, hend.message, hend.completedAt]

theorem sendAll_upholds {event : Event} {now : Instant} {url : String} (hdue : Due alone r)
    (hurl : r.spec.callbackUrl = some url) (hevent : event = outcomeEvent now url r) (place : Nat)
    (channels : List Channel) (past : History) (s : C.State) (hr : Known C alone past s r)
    (hsent : past.outside.deliveries.map (·.op) ++ requests event place channels = requests event 0 n.channels) :
    Upholds (C.among alone) (Calls C alone p n) (fun past' s' failure => Known C alone past' s' r ∧
      past'.outside.deliveries.findSome? (·.failure?) =
        (past.outside.deliveries.findSome? (·.failure?)).or failure) past s
      (Notifier.sendAll event place channels) := by
  induction channels generalizing place past s with
  | nil => exact ⟨hr, by rw [Option.or_none]⟩
  | cons c cs ih =>
      unfold Notifier.sendAll
      rw [requests_cons] at hsent
      split
      · next henabled =>
          rw [if_pos henabled] at hsent
          intro s₁ h₁
          refine ⟨⟨r, now, url, hr.carry h₁, hdue, hurl, hevent, _, by simpa using hsent⟩, fun answer s₂ hs => ?_⟩
          have hr₂ := (hr.carry h₁).served hs (C.elsewhere hs (by simp))
          have hadded : History.deliveries (History.outside (⟨.send place c.name event, answer⟩ :: past)) =
              past.outside.deliveries ++ [⟨.send place c.name event, answer⟩] := History.deliveries_cons ..
          have hrest := ih (place + 1) _ s₂ hr₂ (by simpa [hadded] using hsent)
          rw [hadded, List.findSome?_append] at hrest
          cases answer with
          | ok _ =>
              refine hrest.mono fun past' s' later h => ⟨h.1, ?_⟩
              simpa [Turn.failure?] using h.2
          | error e =>
              change Upholds (C.among alone) (Calls C alone p n) _ _ s₂ (Notifier.sendAll event (place + 1) cs >>= fun _ =>
                pure (some (c.name ++ ": " ++ e.message)))
              refine Upholds.bind (Upholds.mono (fun past' s' later h => ?_) hrest)
              refine ⟨h.1, ?_⟩
              rw [h.2]
              cases past.outside.deliveries.findSome? (·.failure?) <;> simp [Turn.failure?]
      · next hdisabled =>
          rw [if_neg hdisabled] at hsent
          exact ih _ _ _ hr hsent

theorem deliver_upholds {event : Event} {now : Instant} {url : String} (hdue : Due alone r)
    (hurl : r.spec.callbackUrl = some url) (hevent : event = outcomeEvent now url r) (hr : Known C alone past s r)
    (hunsent : past.outside.deliveries = []) :
    Upholds (C.among alone) (Calls C alone p n)
      (fun past' s' d => Known C alone past' s' r ∧ past'.outside.verdict n = d) past s
      (n.deliver event) := by
  unfold Notifier.deliver
  cases hchannels : n.hasChannels with
  | false => exact ⟨hr, by rw [History.verdict, hchannels]; rfl⟩
  | true =>
      have hall := sendAll_upholds (p := p) (n := n) hdue hurl hevent 0 n.channels past s hr (by rw [hunsent]; rfl)
      refine Upholds.bind (hall.mono fun past' s' failure h => ?_)
      obtain ⟨hr', hfailure⟩ := h
      rw [hunsent, List.findSome?_nil, Option.none_or] at hfailure
      cases failure with
      | none => exact ⟨hr', by simp [History.verdict, hchannels, hfailure]⟩
      | some message => exact ⟨hr', by simp [History.verdict, hchannels, hfailure]⟩

theorem tellOutcome_upholds (hbecomes : r.Becomes False t) (hended : r.status.phase.isTerminal) (hdue : Due alone t)
    (ht : Known C alone past s t) (hunsent : past.outside.deliveries = []) :
    Upholds (C.among alone) (Calls C alone p n) (fun past' s' change => Known C alone past' s' t ∧
      Warranted alone p n past' t change ∧
      ∃ delivered reason message, change = Change.notified delivered reason message) past s (tellOutcome n r) := by
  unfold tellOutcome
  cases hurl : r.spec.callbackUrl with
  | none =>
      exact ⟨ht, .notified (by rw [History.told, hbecomes.spec, hurl]) hdue.ended hdue.deleted, _, _, _, rfl⟩
  | some url =>
      have hurl' : t.spec.callbackUrl = some url := by rw [hbecomes.spec, hurl]
      intro s₁ h₁
      refine ⟨trivial, fun now s₂ hs => ?_⟩
      have ht₂ : Known C alone (⟨.now, now⟩ :: past) s₂ t := (ht.carry h₁).served hs (C.elsewhere hs (by simp))
      have hdelivered := deliver_upholds (p := p) (n := n) hdue hurl' (outcomeEvent_eq now url hbecomes hended) ht₂ hunsent
      change Upholds (C.among alone) (Calls C alone p n) _ _ s₂ (n.deliver (outcomeEvent now url r) >>= _)
      refine Upholds.bind (hdelivered.mono fun past' s' d h => ?_)
      obtain ⟨ht', rfl⟩ := h
      cases hverdict : past'.outside.verdict n with
      | sent | failed =>
          exact ⟨ht', .notified (by rw [History.told, hurl', hverdict]) hdue.ended hdue.deleted, _, _, _, rfl⟩

def Unsent (past : History) (_ : Record) : Prop := past.outside.deliveries = []

def Last (turn : Turn) (past : History) (q : Record) : Prop := Unsent past q ∧ ∃ log, past.outside = turn :: log

def Before (r : Record) (past : History) (q : Record) : Prop := q = r ∧ Unsent past q

theorem deleteClaim_guarantees (hended : r.status.phase.isTerminal) :
    Guarantees C alone p n ended (Before r) (ofSandbox (ask (.deleteClaim r.sandbox))) fun deletion past q =>
      q = r ∧ Last ⟨.deleteClaim r.sandbox, .ok deletion⟩ past q := by
  rintro past s ⟨q, hq, rfl, hunsent⟩ s₁ h₁
  refine ⟨⟨q, hq.carry h₁, hended, rfl⟩, fun answer s₂ hs => ?_⟩
  have hq₂ {a : (Operation.deleteClaim q.sandbox).Answer} (hs : C.serves s₁ (.deleteClaim q.sandbox) a s₂) :
      Known C alone (⟨.deleteClaim q.sandbox, a⟩ :: past) s₂ q := (hq.carry h₁).served hs (C.elsewhere hs (by simp))
  match answer, hs with
  | .ok deletion, hs => exact ⟨q, hq₂ hs, rfl, hunsent, past.outside, rfl⟩
  | .error e, hs => exact ⟨hunsent, .inl ⟨q.sandbox, past.outside, rfl, q, (hq₂ hs).weaken, hended⟩⟩

/-- The pass was to clean up for `r`, and the sandbox is seen to. -/
structure Cleared (alone : Prop) (r : Record) (past : History) (t : Record) : Prop where
  becomes : r.Becomes False t
  deleted : t.status.has .sandboxDeleted
  untold : alone → t.status.has .notified = r.status.has .notified
  unsent : past.outside.deliveries = []

theorem tell_guarantees (hended : r.status.phase.isTerminal) (huntold : r.status.has .notified = false) (hid : r.id = id) :
    Guarantees C alone p n ended (Cleared alone r) (do
      let change ← ExceptT.lift (tellOutcome n r)
      let _ ← modify r.id change
      return Outcome.done) (Rests alone ended) := by
  subst hid
  have htell : Guarantees C alone p n ended (Cleared alone r) (ExceptT.lift (tellOutcome n r)) fun change past t =>
      Due alone t ∧ Warranted alone p n past t change ∧
        ∃ delivered reason message, change = Change.notified delivered reason message := by
    refine .lift ?_
    rintro past s ⟨t, ht, hcleared⟩
    have hdue : Due alone t :=
      ⟨hcleared.becomes.isTerminal hended, hcleared.deleted, fun halone => (hcleared.untold halone).trans huntold⟩
    exact (tellOutcome_upholds hcleared.becomes hended hdue ht hcleared.unsent).mono fun _ _ _ h => ⟨t, h.1, hdue, h.2⟩
  refine .bind htell fun change => .bind (.modify (fun _ _ _ h => h.2.1) (fun _ _ h _ => h.1.ended) ?_) fun _ =>
    .pure fun _ _ h => h
  rintro past past' t modified - ⟨hdue, hwarranted, delivered, reason, message, rfl⟩ hlog hturned
  obtain ⟨htold, hwrote⟩ := hturned.notified
  have hbecomes := hturned.becomes hwarranted.ofPass
  exact ⟨hbecomes.isTerminal hdue.ended, hbecomes.has .sandboxDeleted trivial hdue.deleted, htold,
    fun halone _ => hwrote halone (hdue.untold halone)⟩

theorem cleanup_guarantees (hended : r.status.phase.isTerminal) (hid : r.id = id) :
    Guarantees C alone p n ended (Before r) (cleanup n r) (Rests alone ended) := by
  have hrest : Guarantees C alone p n ended (Cleared alone r) (if !r.status.has .notified then do
      let change ← ExceptT.lift (tellOutcome n r)
      let _ ← modify r.id change
      return Outcome.done else return Outcome.done) (Rests alone ended) := by
    refine .ite (fun huntold => tell_guarantees hended (by simpa using huntold) hid) fun htold => .pure fun past t h => ?_
    have hnotified : r.status.has .notified := by simpa using htold
    exact ⟨h.becomes.isTerminal hended, h.deleted, h.becomes.has .notified trivial hnotified,
      fun _ hsent => absurd h.unsent hsent⟩
  refine .ite (fun _ => ?_) fun hdeleted => hrest.weaken ?_
  · subst hid
    refine .bind (deleteClaim_guarantees hended) fun deletion => .bind (.modify ?_ ?_ ?_) fun _ => hrest
    · rintro past q - ⟨rfl, -, log, hlog⟩
      exact .sandboxDeleted hlog hended
    · rintro past q ⟨rfl, -⟩ -
      exact hended
    · rintro past past' q modified - ⟨rfl, hunsent, -⟩ hlog hturned
      have hdeleted := hturned.sandboxDeleted
      exact ⟨hturned.becomes (.sandboxDeleted _), hdeleted.1, hdeleted.2, by rw [hlog]; exact hunsent⟩
  · rintro past _ ⟨rfl, hunsent⟩
    exact ⟨.refl _, by simpa using hdeleted, fun _ => rfl, hunsent⟩

def Fresh (r : Record) (past : History) (q : Record) : Prop := q = r ∧ past.outside = []

theorem Fresh.before {q : Record} (h : Fresh r past q) : Before r past q := ⟨h.1, by rw [Unsent, h.2]; rfl⟩

/-- The pass has just polled the sandbox of this record, which it was shown before, and has sent nothing. -/
structure Polled (r : Record) (sandbox : SandboxRef) (state : Sandbox.State) (past : History) (q : Record) : Prop where
  same : q = r
  unsent : Unsent past q
  turn : ∃ before : History, past = ⟨.poll sandbox, .ok state⟩ :: before ∧ before.Shows r

theorem Polled.before {sandbox : SandboxRef} {state : Sandbox.State} {q : Record} (h : Polled r sandbox state past q) :
    Before r past q := ⟨h.same, h.unsent⟩

theorem Polled.last {sandbox : SandboxRef} {state : Sandbox.State} {q : Record} (h : Polled r sandbox state past q) :
    Last ⟨.poll sandbox, .ok state⟩ past q := by
  obtain ⟨before, rfl, -⟩ := h.turn
  exact ⟨h.unsent, before.outside, rfl⟩

structure Handing (alone : Prop) (r : Record) (address : String) (past : History) (q : Record) : Prop where
  same : q.id = r.id
  phase : q.status.phase = .assigning
  attempts : alone → q.status.attempts = r.status.attempts
  located : Located alone address past q
  unsent : Unsent past q

section

variable (hopen : ¬ ended)

include hopen

theorem resume_guarantees {knows : History → Record → Prop} {f : Modified → Step Outcome}
    (hwarranted : ∀ past q, knows past q → Warranted alone p n past q change)
    (hunsent : ∀ past q, knows past q → past.outside.deliveries = [])
    (hf : ∀ modified past past' q, q.id = id → knows past q → Turned alone past' q change modified →
      Guarantees C alone p n ended (fun later t => t = modified.task.record ∧ later.outside = past.outside) (f modified)
        (Rests alone ended)) :
    Guarantees C alone p n ended knows (modify id change >>= f) (Rests alone ended) := by
  have hmodify : Guarantees C alone p n ended knows (modify id change) fun modified later t =>
      t = modified.task.record ∧ ∃ past q, later.outside = past.outside ∧ q.id = id ∧ knows past q ∧
        Turned alone later q change modified := by
    refine .modify (fun past q _ h => hwarranted past q h) (fun past q h hor => ?_) ?_
    · exact hor.elim (fun hended => absurd hended hopen) fun hsent => absurd (hunsent past q h) hsent
    · exact fun past later q modified hid h hlog hturned => ⟨rfl, past, q, hlog, hid, h, hturned⟩
  refine .bind hmodify fun modified => ?_
  rintro later s ⟨t, ht, hrecord, past, q, hlog, hid, hknows, hturned⟩
  exact hf modified past later q hid hknows hturned later s ⟨t, ht, hrecord, hlog⟩

theorem requeue_guarantees (after : Duration) :
    Guarantees C alone p n ended Unsent (requeue p r after) (Rests alone ended) := by
  exact .bind (.now fun _ _ _ h => h) fun _ => .pure fun _ _ h => ⟨hopen, h.1⟩

theorem modify_requeue_guarantees {knows : History → Record → Prop} (after : Duration)
    (hwarranted : ∀ past q, knows past q → Warranted alone p n past q change)
    (hunsent : ∀ past q, knows past q → past.outside.deliveries = []) :
    Guarantees C alone p n ended knows (do
      let _ ← modify id change
      requeue p r after) (Rests alone ended) := by
  refine resume_guarantees hopen hwarranted hunsent fun _ past _ q _ h _ => (requeue_guarantees hopen after).weaken ?_
  rintro later _ ⟨-, hlog⟩
  rw [Unsent, hlog]
  exact hunsent past q h

theorem finish_guarantees {reason : EndReason} {message : String} {knows : History → Record → Prop}
    (hfinds : ∀ past q, knows past q → Finds alone p past q reason)
    (hunsent : ∀ past q, knows past q → past.outside.deliveries = []) :
    Guarantees C alone p n ended knows (finish n id reason message) (Rests alone ended) := by
  refine resume_guarantees hopen (fun past q h => .finish (hfinds past q h)) hunsent fun _ past _ q hid h hturned => ?_
  refine (cleanup_guarantees hturned.finish (hturned.id_eq.trans hid)).weaken ?_
  rintro later _ ⟨rfl, hlog⟩
  exact ⟨rfl, by rw [Unsent, hlog]; exact hunsent past q h⟩

theorem poll_guarantees {sandbox : SandboxRef} {knows : History → Record → Prop} (more : History → Record → Prop)
    (hsandbox : sandbox = r.sandbox) (hknows : ∀ past q, knows past q → Before r past q)
    (hmore : ∀ state past q, knows past q → more (⟨.poll sandbox, .ok state⟩ :: past) q) :
    Guarantees C alone p n ended knows (ofSandbox (ask (.poll sandbox))) fun state past q =>
      Polled r sandbox state past q ∧ more past q := by
  rintro past s ⟨q, hq, h⟩ s₁ h₁
  obtain ⟨rfl, hunsent⟩ := hknows past q h
  refine ⟨⟨q, hq.carry h₁, hsandbox⟩, fun answer s₂ hs => ?_⟩
  match answer, hs with
  | .ok state, hs =>
      have hknown := (hq.carry h₁).served hs (C.elsewhere hs (by simp))
      exact ⟨q, hknown, ⟨rfl, hunsent, past, rfl, hq.shown⟩, hmore state past q h⟩
  | .error e, hs => exact ⟨hunsent, .inr ⟨hopen, sandbox, past.outside, rfl⟩⟩

theorem handOver_guarantees (hid : r.id = id) (address : String) :
    Guarantees C alone p n ended (Handing alone r address) (handOver p n r address) (Rests alone ended) := by
  subst hid
  have hassign : Guarantees C alone p n ended (Handing alone r address) (wait (.assign address r.id p.callbackApi))
      fun answer past q => Last ⟨.assign address r.id p.callbackApi, answer⟩ past q ∧
        q.id = r.id ∧ (alone → q.status.attempts = r.status.attempts) := by
    refine .wait (by simp) (fun past s q hq h => ⟨rfl, q, hq, h.phase, h.located⟩) fun _ past _ h => ?_
    exact ⟨⟨h.unsent, past.outside, rfl⟩, h.same, h.attempts⟩
  refine .bind hassign fun answer => ?_
  match answer with
  | .ok acceptance =>
      refine modify_requeue_guarantees hopen _ (fun past q h => ?_) fun past q h => h.1.1
      obtain ⟨-, log, hlog⟩ := h.1
      exact .assigned hlog
  | .error e =>
      have hfailed (past : History) (q : Record) (hid : q.id = r.id)
          (h : Last ⟨.assign address r.id p.callbackApi, .error e⟩ past q) : AssignmentFailed q.id past.outside :=
        ⟨address, p.callbackApi, e, hid ▸ h.2⟩
      refine .bind (.now fun _ _ _ h => h) fun now => .ite (fun _ => ?_) fun _ => .ite (fun hlimit => ?_) fun _ => ?_
      · exact modify_requeue_guarantees hopen _ (fun past q h => .assignmentFailed (hfailed past q h.1.2.1 h.1.1))
          fun past q h => h.1.1.1
      · refine finish_guarantees hopen (fun past q h => .assignmentFailure (hfailed past q h.1.2.1 h.1.1) fun halone => ?_)
          fun past q h => h.1.1.1
        rw [h.1.2.2 halone]
        exact hlimit
      · exact modify_requeue_guarantees hopen _ (fun past q h => .assignmentFailed (hfailed past q h.1.2.1 h.1.1))
          fun past q h => h.1.1.1

theorem again_guarantees : Guarantees C alone p n ended Unsent (pure (.requeue .zero)) (Rests alone ended) :=
  .pure fun _ _ h => ⟨hopen, h⟩

theorem announce_guarantees (hid : r.id = id) (hphase : r.status.phase = .ready ∨ r.status.phase = .assigning)
    (address : String) : Guarantees C alone p n ended (fun past q => Before r past q ∧ Located alone address past r)
      (announce p n r address) (Rests alone ended) := by
  subst hid
  refine .ite (fun _ => ?_) fun hready => (handOver_guarantees hopen rfl address).weaken ?_
  · refine resume_guarantees hopen (fun _ _ _ => .startAssigning) (fun _ _ h => h.1.2) fun modified past _ q _ h hturned => ?_
    obtain ⟨⟨rfl, hunsent⟩, hlocated⟩ := h
    have hstill (later : History) (hlog : later.outside = past.outside) : Unsent later modified.task.record := by
      rw [Unsent, hlog]
      exact hunsent
    refine .ite (fun _ => (again_guarantees hopen).weaken fun later _ h => hstill later h.2) fun hassigning => ?_
    refine (handOver_guarantees hopen rfl address).weaken ?_
    rintro later _ ⟨rfl, hlog⟩
    have hcourse := hturned.startAssigning
    refine ⟨hturned.id_eq, not_not.mp hassigning, fun halone => (hcourse halone).attempts, ?_, hstill later hlog⟩
    refine hlocated.imp (fun hpoll => hlog ▸ hpoll) fun haddress halone => ?_
    rw [Record.sandbox, (hcourse halone).sandbox, hturned.id_eq]
    exact haddress halone
  · rintro past _ ⟨⟨rfl, hunsent⟩, hlocated⟩
    exact ⟨rfl, hphase.resolve_left hready, fun _ => rfl, hlocated, hunsent⟩

theorem assign_guarantees (hid : r.id = id) (hphase : r.status.phase = .ready ∨ r.status.phase = .assigning) :
    Guarantees C alone p n ended (Before r) (assign p n r) (Rests alone ended) := by
  subst hid
  refine .bind (poll_guarantees hopen (fun _ _ => True) rfl (fun _ _ h => h) fun _ _ _ _ => trivial) fun state => ?_
  match state with
  | .ready address =>
      refine (announce_guarantees hopen rfl hphase address).weaken fun past q h => ⟨h.1.before, .inl ⟨r.sandbox, ?_⟩⟩
      obtain ⟨-, log, hlog⟩ := h.1.last
      exact hlog ▸ .head _
  | .unknown =>
      cases haddress : r.sandbox.address with
      | some address =>
          simpa only [haddress] using
            (announce_guarantees hopen rfl hphase address).weaken fun past q h => ⟨h.1.before, .inr fun _ => haddress⟩
      | none => simpa only [haddress] using (requeue_guarantees hopen _).weaken fun past q h => h.1.unsent
  | .exited _ | .absent =>
      refine finish_guarantees hopen (fun past q h => ?_) fun _ _ h => h.1.unsent
      obtain ⟨rfl, -, before, hpast, hshown⟩ := h.1
      exact .runnerExited hpast trivial hshown (by rcases hphase with h | h <;> rw [h] <;> trivial)

theorem markReady_guarantees {sandbox : SandboxRef} (address : String) :
    Guarantees C alone p n ended (fun past q => Last ⟨.poll sandbox, .ok (.ready address)⟩ past q ∧
      q.status.sandbox = some sandbox) (markReady p n id address) (Rests alone ended) := by
  refine resume_guarantees hopen (fun past q h => ?_) (fun _ _ h => h.1.1) fun modified past _ q hid h hturned => ?_
  · obtain ⟨⟨-, log, hlog⟩, hsandbox⟩ := h
    exact .markReady hlog hsandbox
  · have hstill (later : History) (t : Record) (hlog : later.outside = past.outside) : Unsent later t := by
      rw [Unsent, hlog]
      exact h.1.1
    refine .ite (fun hready => ?_) fun _ => (again_guarantees hopen).weaken fun later t h => hstill later t h.2
    exact (assign_guarantees hopen (hturned.id_eq.trans hid) (.inl hready)).weaken fun later t h => ⟨h.1, hstill later t h.2⟩

theorem provision_guarantees (hid : r.id = id) (hphase : r.status.phase = .provisioning)
    (hsandbox : r.status.sandbox = none) :
    Guarantees C alone p n ended (Fresh r) (provision p r) (Rests alone ended) := by
  subst hid
  have hask : Guarantees C alone p n ended (Fresh r) (wait (.provision r)) fun answer => Last ⟨.provision r, answer⟩ := by
    refine .wait (by simp) (fun past s q hq h => ?_) fun _ past _ h => ⟨h.before.2, past.outside, rfl⟩
    obtain ⟨rfl, hfresh⟩ := h
    exact ⟨hq, hphase, hsandbox, hfresh⟩
  refine .bind hask fun answer => ?_
  match answer with
  | .error e => exact (requeue_guarantees hopen _).weaken fun _ _ h => h.1
  | .ok sandbox =>
      refine modify_requeue_guarantees hopen _ (fun past q h => ?_) fun past q h => h.1
      obtain ⟨-, log, hlog⟩ := h
      exact .recordSandbox hlog

theorem awaitReadiness_guarantees (hid : r.id = id) (hphase : r.status.phase = .provisioning) :
    Guarantees C alone p n ended (Fresh r) (awaitReadiness p n r) (Rests alone ended) := by
  subst hid
  refine .bind (.now fun _ _ _ h => h) fun now => ?_
  cases hsandbox : r.status.sandbox with
  | none =>
      dsimp only
      refine .ite (fun hlate => finish_guarantees hopen (fun past q h => ?_) fun _ _ h => h.1.before.2) fun _ =>
        (provision_guarantees hopen rfl hphase hsandbox).weaken fun _ _ h => h.1
      obtain ⟨⟨rfl, -⟩, hnow⟩ := h
      exact .provisioningTimeout hnow hphase hlate
  | some sandbox =>
      dsimp only
      refine .bind (poll_guarantees hopen (fun past _ => ⟨.now, now⟩ ∈ past)
        (by rw [Record.sandbox, hsandbox, Option.getD_some]) (fun _ _ h => h.1.before)
        fun _ _ _ h => .tail _ h.2) fun state => ?_
      have hlook : Guarantees C alone p n ended
          (fun past q => Polled r sandbox state past q ∧ ⟨.now, now⟩ ∈ past)
          (if state = .absent then do
            let _ ← modify r.id Change.forgetSandbox
            requeue p r p.provisioningPoll
          else requeue p r p.provisioningPoll) (Rests alone ended) := by
        refine .ite (fun habsent => ?_) fun _ => (requeue_guarantees hopen _).weaken fun _ _ h => h.1.unsent
        refine modify_requeue_guarantees hopen _ (fun past q h => ?_) fun past q h => h.1.unsent
        obtain ⟨-, log, hlog⟩ := h.1.last
        exact .forgetSandbox (habsent ▸ hlog)
      cases state with
      | ready address => exact (markReady_guarantees hopen address).weaken fun _ _ h => ⟨h.1.last, h.1.same ▸ hsandbox⟩
      | exited | unknown | absent =>
          refine .ite (fun hlate => finish_guarantees hopen (fun past q h => ?_) fun _ _ h => h.1.unsent) fun _ => hlook
          obtain ⟨⟨rfl, -⟩, hnow⟩ := h
          exact .provisioningTimeout hnow hphase hlate

theorem startProvisioning_guarantees (hid : r.id = id) :
    Guarantees C alone p n ended (Fresh r) (startProvisioning p n r) (Rests alone ended) := by
  subst hid
  refine resume_guarantees hopen (fun _ _ _ => .startProvisioning) (fun _ _ h => h.before.2) ?_
  intro modified _ _ _ hid h hturned
  have hstill (later : History) (t : Record) (ht : t = modified.task.record ∧ later.outside = _) :
      Fresh modified.task.record later t := ⟨ht.1, ht.2.trans h.2⟩
  refine .ite (fun hphase => (awaitReadiness_guarantees hopen (hturned.id_eq.trans hid) hphase).weaken hstill) fun _ => ?_
  exact (again_guarantees hopen).weaken fun later t ht => (hstill later t ht).before.2

theorem watch_guarantees (hid : r.id = id) (hphase : r.status.phase = .running) :
    Guarantees C alone p n ended (Before r) (watch p n r) (Rests alone ended) := by
  subst hid
  refine .bind (poll_guarantees hopen (fun _ _ => True) rfl (fun _ _ h => h) fun _ _ _ _ => trivial) fun state => ?_
  match state with
  | .ready _ | .unknown => exact (requeue_guarantees hopen _).weaken fun _ _ h => h.1.unsent
  | .exited _ | .absent =>
      refine finish_guarantees hopen (fun past q h => ?_) fun _ _ h => h.1.unsent
      obtain ⟨rfl, -, before, hpast, hshown⟩ := h.1
      exact .runnerExited hpast trivial hshown (by rw [hphase]; trivial)

theorem advance_guarantees (hid : r.id = id) :
    Guarantees C alone p n ended (Fresh r) (advance p n r) (Rests alone ended) := by
  have hbefore (past : History) (q : Record) (h : Fresh r past q) : Before r past q := h.before
  unfold advance
  split
  · exact startProvisioning_guarantees hopen hid
  · next hphase => exact awaitReadiness_guarantees hopen hid hphase
  · next hphase => exact (assign_guarantees hopen hid (.inl hphase)).weaken hbefore
  · next hphase => exact (assign_guarantees hopen hid (.inr hphase)).weaken hbefore
  · next hphase => exact (watch_guarantees hopen hid hphase).weaken hbefore
  all_goals
    next hphase => exact (cleanup_guarantees (hphase ▸ rfl) hid).weaken hbefore

end

def FoundEnded (past : History) : Prop :=
  ∃ (i : String) (t : Versioned), past.getLast? = some ⟨.find i, .ok (some t)⟩ ∧ t.record.status.phase.isTerminal

theorem foundEnded_iff {i : String} {t : Versioned} (h : [⟨.find i, .ok (some t)⟩] <:+ past) :
    FoundEnded past ↔ t.record.status.phase.isTerminal := by
  obtain ⟨later, rfl⟩ := h
  constructor
  · rintro ⟨j, q, hlast, hended⟩
    rw [List.getLast?_concat] at hlast
    cases hlast
    exact hended
  · exact fun hended => ⟨i, t, List.getLast?_concat, hended⟩

/-- How a pass may end: there is no such task, or it came to rest, or it was halted. -/
def Closes (C : Contract id) (alone : Prop) (past : History) (s : C.State) : Except Error Outcome → Prop
  | .ok outcome => outcome = .done ∧ C.current s = none ∨
      ∃ r, Known C False past s r ∧ Rests alone (FoundEnded past) outcome past r
  | .error e => Halts C alone (FoundEnded past) past s e

theorem Halts.carry {s' : C.State} {e : Error} (hs : Meanwhile False C s s') (h : Halts C alone ended past s e) :
    Halts C alone ended past s' e := by
  cases e with
  | store e => exact fun hor halone hreliable => hs.gone (h hor halone hreliable)
  | provision e =>
      obtain ⟨hunsent, hdeletion | hpoll⟩ := h
      · obtain ⟨sandbox, rest, hlog, r, hr, hended⟩ := hdeletion
        exact ⟨hunsent, .inl ⟨sandbox, rest, hlog, r, hr.carry hs, hended⟩⟩
      · exact ⟨hunsent, .inr hpoll⟩

theorem Closes.carry {s' : C.State} {result : Except Error Outcome} (hs : Meanwhile False C s s')
    (h : Closes C alone past s result) : Closes C alone past s' result := by
  cases result with
  | ok outcome =>
      obtain ⟨hdone, hgone⟩ | ⟨r, hr, hrests⟩ := h
      · exact .inl ⟨hdone, hs.gone hgone⟩
      · exact .inr ⟨r, hr.carry hs, hrests⟩
  | error e => exact Halts.carry hs h

theorem pass_upholds (s : C.State) : Upholds (C.among alone) (Calls C alone p n) (Closes C alone) [] s (pass p n id) := by
  intro s₁ h₁
  refine ⟨rfl, fun found s₂ hs => ?_⟩
  have hview := C.elsewhere hs (by simp)
  match found, hs with
  | .error e, hs =>
      rintro (⟨i, t, hlast, -⟩ | hsent)
      · cases hlast
      · exact absurd rfl hsent
  | .ok none, hs => exact .inl ⟨rfl, by rw [Contract.current, hview, ← C.find_ok hs]⟩
  | .ok (some task), hs =>
      have hid : task.record.id = id := C.fits hs
      have hcurrent : C.current s₂ = some task := by rw [Contract.current, hview, ← C.find_ok hs]
      have hrest : Guarantees C alone p n (task.record.status.phase.isTerminal : Prop) (Fresh task.record)
          (if task.record.status.phase.isTerminal then cleanup n task.record else do
            let now ← wait .now
            if hasElapsed now task.record.createdAt p.taskTimeout then
              finish n task.record.id .taskTimeout (deadlineMessage p task.record.status.phase)
            else advance p n task.record) (Rests alone (task.record.status.phase.isTerminal : Prop)) := by
        subst hid
        refine .ite (fun hended => (cleanup_guarantees hended rfl).weaken fun _ _ h => h.before) fun hopen => ?_
        refine .bind (.now fun _ _ _ h => h) fun now => .ite (fun hlate => ?_) fun _ =>
          (advance_guarantees hopen rfl).weaken fun _ _ h => h.1
        refine finish_guarantees hopen (fun past q h => ?_) fun _ _ h => h.1.before.2
        obtain ⟨⟨rfl, -⟩, hnow⟩ := h
        exact .taskTimeout hnow hlate
      have hupholds := hrest [⟨.find id, .ok (some task)⟩] s₂
        ⟨task.record, .of_current hid rfl hcurrent, rfl, rfl⟩
      refine hupholds.suffix.mono fun past s result h => ?_
      obtain ⟨harrives, hsuffix⟩ := h
      rw [← foundEnded_iff hsuffix] at harrives
      cases result with
      | ok outcome =>
          obtain ⟨r, hr, hrests⟩ := harrives
          exact .inr ⟨r, hr.weaken, hrests⟩
      | error e => exact harrives

end Reconcile

end SandboxTasks
