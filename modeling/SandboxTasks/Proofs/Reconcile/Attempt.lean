import SandboxTasks.Proofs.Reconcile.Tally

namespace SandboxTasks

open Store

def Operation.IsAside : Operation → Prop
  | .find _ | .create _ _ | .swap _ _ _ | .erase _ | .assign _ _ _ => False
  | _ => True

namespace Operation.IsAside

variable {past : History} {op : Operation} {a : op.Answer}

theorem shows? (h : op.IsAside) : (⟨op, a⟩ : Turn).shows? = none := by
  cases op <;> first | exact False.elim h | rfl

theorem not_wrote (h : op.IsAside) : (⟨op, a⟩ : Turn).wrote = false := Turn.wrote_eq_false_of_shows h.shows?

theorem not_hangs (h : op.IsAside) : ¬ History.Hangs (⟨op, a⟩ :: past) := by
  cases op <;> first | exact False.elim h | exact fun h => h

end Operation.IsAside

namespace Reconcile

/-- What a pass starts from: how many assignments had failed before, and how often a pass had moved the task on. -/
structure Opening where
  policy : Policy
  failed : Nat
  taken : Nat

abbrev Account := Policy → Status → Nat → Nat → Prop

def Opening.Has (o : Opening) (account : Account) (past : History) (s : Status) : Prop :=
  account o.policy s (o.failed + past.charged o.policy) (o.taken + past.turned (·.pastAssigning))

/-- What a client is told of its task by a store that can be relied on, when only reports and cancels write besides it.
What it is shown first is as the account is opened. -/
def ReliablyAnswered (id : String) (o : Opening) (past : History) : (op : Operation) → op.Answer → Prop
  | .find _, found => ∃ q, found = .ok (some q) ∧ q.record.id = id ∧
      (past = [] → Tally o.policy q.record.status o.failed o.taken) ∧
      ∀ t, past.lastSeen? = some t → q = t ∨ t.record.status.Overtaken q.record.status
  | .swap _ _ next, .ok t => ∃ r, past.lastSeen? = some r ∧ t.record = { r.record with status := next }
  | .swap _ _ _, .error e => ∃ i, e = .conflict i
  | _, _ => True

/-- Of the task as the client saw it last, all is settled, or one failure is owed. -/
def TallyOrOwed (o : Opening) (past : History) : Prop :=
  past = [] ∨ ∃ t, past.lastSeen? = some t ∧ (o.Has Tally past t.record.status ∨ o.Has Owed past t.record.status)

/-- All is settled, or the client was beaten when it was about to record what is owed. -/
def TallyOrLost (o : Opening) (past : History) : Prop :=
  ∃ t, past.lastSeen? = some t ∧
    (o.Has Tally past t.record.status ∨ o.Has Owed past t.record.status ∧ past.head?.any (·.lost))

structure Sees (id : String) (o : Opening) (account : Account) (past : History) (t : Versioned) : Prop where
  clear : ¬ past.Hangs
  seen : past.lastSeen? = some t
  id : t.record.id = id
  account : o.Has account past t.record.status

/-- An account that stands whatever reports and cancels write. -/
structure Lasting (account : Account) : Prop where
  overtaken : ∀ p s next failed taken, account p s failed taken → s.Overtaken next → account p next failed taken
  tallyOrOwed : ∀ p s failed taken, account p s failed taken → Tally p s failed taken ∨ Owed p s failed taken

theorem lasting_tally : Lasting Tally where
  overtaken _ _ _ _ _ h hover := h.uncounted hover.uncounted fun _ => rfl
  tallyOrOwed _ _ _ _ h := .inl h

theorem lasting_owed : Lasting Owed where
  overtaken _ _ _ _ _ h hover := h.uncounted hover.uncounted
  tallyOrOwed _ _ _ _ h := .inr h

variable {id : String} {o : Opening} {account : Account} {knows knows' : Status → Prop} {past : History}
  {s : Unit} {t q : Versioned} {op : Operation} {a : op.Answer}

theorem Opening.Has.cons {s : Status} {turn : Turn} (h : o.Has account past s) (hclear : ¬ past.Hangs)
    (hwrote : turn.wrote = false) : o.Has account (turn :: past) s := by
  rw [Opening.Has, History.charged_cons hclear, History.turned_cons_of_not_wrote hwrote]
  exact h

namespace Sees

theorem tallyOrOwed (h : Sees id o account past t) (haccount : Lasting account) : TallyOrOwed o past :=
  .inr ⟨t, h.seen, haccount.tallyOrOwed _ _ _ _ h.account⟩

theorem tallyOrLost (h : Sees id o Tally past t) : TallyOrLost o past := ⟨t, h.seen, .inl h.account⟩

theorem aside (h : Sees id o account past t) (hop : op.IsAside) : Sees id o account (⟨op, a⟩ :: past) t where
  clear := hop.not_hangs
  seen := by rw [History.lastSeen?_cons, hop.shows?, Option.none_or, h.seen]
  id := h.id
  account := h.account.cons h.clear hop.not_wrote

theorem found {i : String} (h : Sees id o account past t) (haccount : Lasting account) (hid : q.record.id = id)
    (hq : q = t ∨ t.record.status.Overtaken q.record.status) :
    Sees id o account (⟨.find i, .ok (some q)⟩ :: past) q where
  clear h := h
  seen := rfl
  id := hid
  account := by
    refine Opening.Has.cons ?_ h.clear rfl
    obtain rfl | hover := hq
    · exact h.account
    · exact haccount.overtaken _ _ _ _ _ h.account hover

theorem refused {i version : String} {next : Status} {e : StoreError} (h : Sees id o account past t) :
    Sees id o account (⟨.swap i version next, .error e⟩ :: past) t where
  clear h := h
  seen := h.seen
  id := h.id
  account := h.account.cons h.clear rfl

theorem written {i version : String} {next : Status} {change : Change} {now : Instant} (h : Sees id o account past t)
    (hsettles : change.Settles o.policy (account o.policy) knows) (hknows : knows t.record.status)
    (hnext : change now t.record = some next) (hrecord : q.record = { t.record with status := next }) :
    Sees id o Tally (⟨.swap i version next, .ok q⟩ :: past) q where
  clear h := h
  seen := rfl
  id := by rw [hrecord, h.id]
  account := by
    rw [Opening.Has, History.charged_cons h.clear, hrecord]
    refine hsettles.applied now t.record next _ _ _ hknows h.account hnext fun hsame => ?_
    rw [History.turned, h.seen]
    obtain hbefore | hafter := hsame
    · simp [Turn.turns, hbefore]
    · simp [Turn.turns, hafter]

end Sees

def SeesStatus (id : String) (o : Opening) (account : Account) (knows : Status → Prop) (past : History) (_ : Unit) :
    Prop :=
  ∃ t, Sees id o account past t ∧ knows t.record.status

theorem SeesStatus.tallyOrLost (h : SeesStatus id o Tally knows past s) : TallyOrLost o past := by
  obtain ⟨t, ht, -⟩ := h
  exact ht.tallyOrLost

def Made (id : String) (o : Opening) (knows : Status → Prop) (modified : Modified) : History → Unit → Prop :=
  SeesStatus id o Tally fun s => modified.task.record.id = id ∧ modified.task.record.status = s ∧ knows s

/-- What a change is to be made of, and what of it stays true. -/
structure KeepsAccount (o : Opening) (account : Account) (knows knows' : Status → Prop) (change : Change) : Prop where
  lasting : Lasting account
  settles : change.Settles o.policy (account o.policy) knows
  stable : ∀ s next, knows s → s.Overtaken next → knows next
  applied : ∀ now r next, knows r.status → change now r = some next → knows' next
  unchanged : ∀ now r, knows r.status → change now r = none → knows' r.status

namespace Rule

def accounting (id : String) (o : Opening) : Rule Unit where
  around := ⟨fun _ _ => True, fun past _ op a _ => ReliablyAnswered id o past op a⟩
  may past _ _ := TallyOrOwed o past
  halts past _ _ := TallyOrLost o past

theorem rounds_accounting {change : Change} (hkeeps : KeepsAccount o account knows knows' change) :
    Rounds (accounting id o).around (accounting id o).may id change
      (fun left past s => SeesStatus id o account knows past s ∧ (left = 0 → past.head?.any (·.lost)))
      (fun _ q past _ => Sees id o account past q ∧ knows q.record.status)
      (fun _ q _ past _ => Sees id o account past q ∧ knows q.record.status)
      fun
        | .ok modified => Made id o knows' modified
        | .error _ => fun past _ => TallyOrLost o past where
  exhausted past s h := by
    obtain ⟨⟨t, ht, -⟩, hlost⟩ := h
    exact ⟨t, ht.seen, (hkeeps.lasting.tallyOrOwed _ _ _ _ ht.account).imp_right fun howed => ⟨howed, hlost rfl⟩⟩
  find left past s h s₁ h₁ := by
    obtain ⟨⟨t, ht, hknows⟩, -⟩ := h
    refine ⟨ht.tallyOrOwed hkeeps.lasting, fun found s₂ hfound => ?_⟩
    obtain ⟨q, rfl, hid, -, hseen⟩ := hfound
    have hq := hseen t ht.seen
    refine ⟨ht.found hkeeps.lasting hid hq, ?_⟩
    obtain rfl | hover := hq
    · exact hknows
    · exact hkeeps.stable _ _ hknows hover
  now left q past s h s₁ h₁ := ⟨h.1.tallyOrOwed hkeeps.lasting, fun now s₂ hs => ⟨h.1.aside trivial, h.2⟩⟩
  unchanged left q now past s h hnone := by
    have hsettled := hkeeps.settles.unchanged now q.record _ _ h.2 h.1.account hnone
    exact ⟨q, ⟨h.1.clear, h.1.seen, h.1.id, hsettled⟩, h.1.id, rfl, hkeeps.unchanged now q.record h.2 hnone⟩
  swap left q now next hnext past s h s₁ h₁ := by
    obtain ⟨hsees, hknows⟩ := h
    refine ⟨hsees.tallyOrOwed hkeeps.lasting, fun swapped s₂ hswapped => ?_⟩
    cases swapped with
    | ok t =>
        obtain ⟨r, hr, hrecord⟩ := hswapped
        cases hsees.seen.symm.trans hr
        have hwritten : Sees id o Tally (⟨.swap id q.version next, .ok t⟩ :: past) t :=
          hsees.written hkeeps.settles hknows hnext hrecord
        have hafter := hkeeps.applied now q.record next hknows hnext
        exact ⟨t, hwritten, hwritten.id, rfl, by rw [hrecord]; exact hafter⟩
    | error e =>
        obtain ⟨i, rfl⟩ := hswapped
        exact ⟨⟨q, hsees.refused, hknows⟩, fun _ => rfl⟩

theorem modify_seesStatus {change : Change} (hkeeps : KeepsAccount o account knows knows' change) :
    (accounting id o).Triple (SeesStatus id o account knows) (modify id change) (Made id o knows') := by
  refine .ofStore fun past s h => ((rounds_accounting hkeeps).upholds rounds ⟨h, fun h => nomatch h⟩).mono ?_
  intro past' s' result hends
  cases result with
  | ok modified => exact hends
  | error e => exact hends

theorem asks_stands (haccount : Lasting account) (hop : op.IsAside) :
    Asks (accounting id o).around (accounting id o).may (SeesStatus id o account knows) op
      fun _ => SeesStatus id o account knows := by
  rintro past s ⟨t, ht, hknows⟩ s₁ h₁
  exact ⟨ht.tallyOrOwed haccount, fun answer s₂ hs => ⟨t, ht.aside hop, hknows⟩⟩

def Settled (id : String) (o : Opening) (knows : Status → Prop) (r : Record) (past : History) (s : Unit) : Prop :=
  r.id = id ∧ SeesStatus id o Tally knows past s

def JustSeen (id : String) (o : Opening) (r : Record) : History → Unit → Prop := Settled id o (· = r.status) r

variable {n : Callback.Notifier} {r : Record} {change : Change}

theorem Settled.weaken (h : Settled id o knows r past s) : Settled id o (fun _ => True) r past s := by
  obtain ⟨hid, t, ht, -⟩ := h
  exact ⟨hid, t, ht, trivial⟩

theorem Made.justSeen {modified : Modified} (h : Made id o knows modified past s) :
    JustSeen id o modified.task.record past s := by
  obtain ⟨t, ht, hid, hstatus, -⟩ := h
  exact ⟨hid, t, ht, hstatus.symm⟩

theorem asks_settled (hop : op.IsAside) : Asks (accounting id o).around (accounting id o).may (Settled id o knows r) op
    fun _ => Settled id o knows r := by
  rintro past s ⟨hid, hstands⟩ s₁ h₁
  obtain ⟨hmay, hnext⟩ := asks_stands lasting_tally hop past s hstands s₁ h₁
  exact ⟨hmay, fun answer s₂ hs => ⟨hid, hnext answer s₂ hs⟩⟩

theorem keepsAccount_of_uncounted (h : change.Uncounted) : KeepsAccount o Tally (fun _ => True) (fun _ => True) change where
  lasting := lasting_tally
  settles := h.settles
  stable _ _ _ _ := trivial
  applied _ _ _ _ _ := trivial
  unchanged _ _ _ _ := trivial

theorem modify_settled (h : change.Uncounted) :
    (accounting id o).Triple (Settled id o knows r) (modify id change) fun modified past s =>
      Settled id o (fun _ => True) r past s ∧ JustSeen id o modified.task.record past s := by
  refine .given (fun _ _ h => h.1) fun hid => ?_
  refine ((modify_seesStatus (keepsAccount_of_uncounted h)).mono fun modified past s h => ?_).weaken
    fun past s h => h.weaken.2
  have ⟨t, ht, _⟩ := h
  exact ⟨⟨hid, t, ht, trivial⟩, Made.justSeen h⟩

theorem cleans_accounting (r : Record) : (accounting id o).Cleans r (Settled id o (fun _ => True) r) where
  now := asks_settled trivial
  send _ _ _ _ := asks_settled trivial
  deleteClaim := .deleteClaim (asks_settled trivial) fun _ _ _ h => h.2.tallyOrLost
  sandboxDeleted reason := .given (fun _ _ h => h.1) fun hid => by
    subst hid
    exact (modify_settled (Change.uncounted_sandboxDeleted reason)).mono fun _ _ _ h => h.1
  notified delivered reason message := .given (fun _ _ h => h.1) fun hid => by
    subst hid
    exact (modify_settled (Change.uncounted_notified delivered reason message)).mono fun _ _ _ h => h.1

theorem requeue_tallyOrLost (after : Duration) :
    (accounting id o).Triple (SeesStatus id o Tally knows) (requeue o.policy r after) fun _ past _ => TallyOrLost o past :=
  .bind (.wait (asks_stands lasting_tally trivial)) fun _ => .pure fun _ _ h => h.tallyOrLost

theorem steps_accounting (id : String) (o : Opening) :
    (accounting id o).Steps o.policy id (JustSeen id o) (Settled id o fun _ => True) fun _ past _ => TallyOrLost o past where
  named _ _ _ h := h.1
  seen _ _ _ h := h.weaken
  cleans := cleans_accounting
  now _ := asks_settled trivial
  poll _ := .poll (asks_settled trivial) fun _ _ _ h => h.2.tallyOrLost
  change _ _ h := modify_settled h.uncounted
  requeue _ after := (requeue_tallyOrLost after).weaken fun _ _ h => h.2
  again _ _ _ h := h.2.tallyOrLost
  done _ _ _ h := h.2.tallyOrLost

theorem finish_tallyOrLost {reason : EndReason} {message : String} (hkeeps : KeepsAccount o account knows (fun _ => True)
    (Change.finish reason (some message))) :
    (accounting id o).Triple (SeesStatus id o account knows) (finish n id reason message)
      fun _ past _ => TallyOrLost o past :=
  .bind (modify_seesStatus hkeeps) fun _ => (steps_accounting id o).cleanup.weaken fun _ _ h => (Made.justSeen h).weaken

end Rule

section Hung

variable {address i api : String} {e : Assignment.Error} {now : Instant}

theorem Sees.accepted {acceptance : Assignment.Acceptance} (h : Sees id o Tally past t) :
    Sees id o Tally (⟨.assign address i api, .ok acceptance⟩ :: past) t :=
  ⟨fun h => h, h.seen, h.id, h.account.cons h.clear rfl⟩

theorem charged_hung (hclear : ¬ past.Hangs) (h : past.lastSeen? = some t) : History.charged o.policy
    (⟨.now, now⟩ :: ⟨.assign address i api, .error e⟩ :: past) =
      past.charged o.policy + if o.policy.excuses now t.record.status e then 0 else 1 := by
  rw [History.charged, History.charged_cons hclear, History.charge, h]
  rfl

theorem Sees.excused (h : Sees id o Tally past t) (hexcused : o.policy.excuses now t.record.status e) :
    Sees id o Tally (⟨.now, now⟩ :: ⟨.assign address i api, .error e⟩ :: past) t where
  clear h := h
  seen := h.seen
  id := h.id
  account := by
    rw [Opening.Has, charged_hung h.clear h.seen, if_pos hexcused]
    exact h.account

theorem Sees.owed (h : Sees id o Tally past t) (hphase : t.record.status.phase = .assigning)
    (hexcused : ¬ o.policy.excuses now t.record.status e) :
    Sees id o Owed (⟨.now, now⟩ :: ⟨.assign address i api, .error e⟩ :: past) t where
  clear h := h
  seen := h.seen
  id := h.id
  account := by
    rw [Opening.Has, charged_hung h.clear h.seen, if_neg hexcused]
    exact h.account.owed hphase

end Hung

structure Ready (r : Record) (s : Status) : Prop where
  phase : s.phase = .assigning
  course : r.status.SameCourse s

theorem keepsAccount_assignmentFailed (message : String) :
    KeepsAccount o Owed (·.attempts + 1 < o.policy.assignmentMaxAttempts) (fun _ => True)
      (Change.assignmentFailed message true) where
  lasting := lasting_owed
  settles := Change.settles_assignmentFailed message
  stable _ _ hmore hover := by rwa [hover.uncounted.attempts]
  applied _ _ _ _ _ := trivial
  unchanged _ _ _ _ := trivial

theorem keepsAccount_finish (message : Option String) :
    KeepsAccount o Owed (o.policy.assignmentMaxAttempts ≤ ·.attempts + 1) (fun _ => True)
      (Change.finish .assignmentFailure message) where
  lasting := lasting_owed
  settles := Change.settles_finish message
  stable _ _ hlast hover := by rwa [hover.uncounted.attempts]
  applied _ _ _ _ _ := trivial
  unchanged _ _ _ _ := trivial

namespace Rule

variable {n : Callback.Notifier} {r : Record}

theorem uncounted_requeue {change : Change} (h : change.Uncounted) (after : Duration) :
    (accounting id o).Triple (SeesStatus id o Tally knows) (do
      let _ ← modify id change
      requeue o.policy r after) fun _ past _ => TallyOrLost o past :=
  .bind ((modify_seesStatus (keepsAccount_of_uncounted h)).weaken fun _ _ ⟨t, ht, _⟩ => ⟨t, ht, trivial⟩) fun _ =>
    requeue_tallyOrLost after

theorem handOver_tallyOrLost (hid : r.id = id) (address : String) :
    (accounting id o).Triple (SeesStatus id o Tally (Ready r)) (handOver o.policy n r address)
      fun _ past _ => TallyOrLost o past := by
  subst hid
  rintro past s ⟨t, ht, hready⟩ s₁ h₁
  refine ⟨ht.tallyOrOwed lasting_tally, fun answer s₂ _ => ?_⟩
  cases answer with
  | ok acceptance => exact uncounted_requeue Change.uncounted_assigned _ _ s₂ ⟨t, ht.accepted, hready⟩
  | error e =>
      refine fun s₃ h₃ => ⟨.inr ⟨t, ht.seen, .inl (ht.account.cons ht.clear rfl)⟩, fun now s₄ _ => ?_⟩
      have hstands {account : Account} (h : Sees r.id o account (⟨.now, now⟩ ::
          ⟨.assign address r.id o.policy.callbackApi, .error e⟩ :: past) t) : SeesStatus r.id o account (Ready r) _ s₄ :=
        ⟨t, h, hready⟩
      -- The pass judges by a record it saw earlier, but it was ready just as long ago.
      have hexcuses := hready.course.excuses o.policy now e
      by_cases hexcused : o.policy.excuses now r.status e
      · refine Triple.ite (fun _ => ?_) (fun hnot => absurd hexcused hnot) _ s₄
          (hstands (ht.excused (hexcuses.trans hexcused)))
        exact uncounted_requeue (Change.uncounted_assignmentFailed _) _
      · have hattempts {s : Status} (hs : Ready r s) : s.attempts = r.status.attempts := hs.course.attempts
        refine Triple.ite (fun h => absurd h hexcused) (fun _ => .ite (fun hlast => ?_) fun hmore => ?_) _ s₄
          (hstands (ht.owed hready.phase (by rwa [hexcuses])))
        · refine (finish_tallyOrLost (keepsAccount_finish _)).weaken ?_
          rintro past s ⟨t, ht, hs⟩
          refine ⟨t, ht, ?_⟩
          change _ ≤ t.record.status.attempts + 1
          rwa [hattempts hs]
        · refine (Triple.bind (modify_seesStatus (keepsAccount_assignmentFailed _)) fun _ => requeue_tallyOrLost _).weaken ?_
          rintro past s ⟨t, ht, hs⟩
          refine ⟨t, ht, ?_⟩
          change t.record.status.attempts + 1 < _
          rw [hattempts hs]
          exact not_le.mp hmore

theorem keepsAccount_startAssigning (r : Record) :
    KeepsAccount o Tally (r.status.SameCourse ·) (r.status.SameCourse ·) Change.startAssigning where
  lasting := lasting_tally
  settles := Change.uncounted_startAssigning.settles
  stable _ _ h hover := h.trans hover.course
  applied now q next h hnext := by
    obtain ⟨-, ⟨⟩⟩ := Option.ite_none_right_eq_some.mp hnext
    exact h.trans ⟨rfl, rfl, rfl, rfl⟩
  unchanged _ _ h _ := h

theorem announce_tallyOrLost (hid : r.id = id) (hphase : r.status.phase = .ready ∨ r.status.phase = .assigning)
    (address : String) :
    (accounting id o).Triple (JustSeen id o r) (announce o.policy n r address) fun _ past _ => TallyOrLost o past := by
  subst hid
  refine .ite (fun _ => ?_) fun hready => (handOver_tallyOrLost rfl address).weaken ?_
  · refine .bind ((modify_seesStatus (keepsAccount_startAssigning r)).weaken ?_) fun modified =>
      .ite (fun _ => ?_) fun hassigning => ?_
    · rintro past s ⟨-, t, ht, hstatus⟩
      exact ⟨t, ht, by rw [hstatus]; exact .refl _⟩
    · exact .pure fun _ _ h => SeesStatus.tallyOrLost h
    · refine (handOver_tallyOrLost rfl address).weaken ?_
      rintro past s ⟨t, ht, -, hstatus, hcourse⟩
      exact ⟨t, ht, hstatus ▸ not_not.mp hassigning, hcourse⟩
  · rintro past s ⟨-, t, ht, hstatus⟩
    exact ⟨t, ht, by rw [hstatus]; exact ⟨hphase.resolve_left hready, .refl _⟩⟩

theorem assign_tallyOrLost (hid : r.id = id) (hphase : r.status.phase = .ready ∨ r.status.phase = .assigning) :
    (accounting id o).Triple (JustSeen id o r) (assign o.policy n r) fun _ past _ => TallyOrLost o past := by
  have hsteps := steps_accounting id o
  subst hid
  refine .bind (hsteps.poll r) fun state => ?_
  match state with
  | .ready address => exact announce_tallyOrLost rfl hphase address
  | .unknown =>
      cases haddress : r.sandbox.address with
      | some address => simpa only [haddress] using announce_tallyOrLost rfl hphase address
      | none => simpa only [haddress] using (requeue_tallyOrLost _).weaken fun _ _ h => h.2
  | .exited _ | .absent => exact hsteps.finish (by decide) _

theorem walks_accounting (id : String) (o : Opening) (n : Callback.Notifier) :
    (accounting id o).Walks o.policy n id (fun past _ => past = []) (JustSeen id o) (Settled id o fun _ => True)
      fun _ past _ => TallyOrLost o past where
  toSteps := steps_accounting id o
  find := by
    refine .ofStore ?_
    rintro _ s rfl s₁ h₁
    refine ⟨.inl rfl, fun found s₂ hfound => ?_⟩
    obtain ⟨q, rfl, hid, hfirst, -⟩ := hfound
    exact ⟨hid, q, ⟨fun h => h, rfl, hid, hfirst rfl⟩, rfl⟩
  provision r hid := by
    have hasks : Asks (accounting id o).around (accounting id o).may (JustSeen id o r) (.provision r) _ :=
      asks_settled trivial
    refine (steps_accounting id o).provision (fun _ => True) (fun past s h s₁ h₁ => ?_) fun sandbox _ => ?_
    · obtain ⟨hmay, hnext⟩ := hasks past s h s₁ h₁
      exact ⟨hmay, fun answer s₂ hs => ⟨(hnext answer s₂ hs).weaken, fun _ _ => trivial⟩⟩
    · subst hid
      exact (modify_settled (Change.uncounted_recordSandbox sandbox)).mono fun _ _ _ h => h.1
  assign _ hid hphase := assign_tallyOrLost hid hphase

end Rule

theorem pass_tallyOrLost : Upholds (Rule.accounting id o).around (fun past _ _ => TallyOrOwed o past)
    (fun past _ _ => TallyOrLost o past) [] () (pass o.policy n id) :=
  ((Rule.walks_accounting id o n).pass [] () rfl).mono fun past s result h => by
    cases result with
    | ok outcome => exact h
    | error e => exact h

end Reconcile

end SandboxTasks
