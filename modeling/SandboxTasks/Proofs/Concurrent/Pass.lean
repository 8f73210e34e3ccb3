import SandboxTasks.Proofs.Reconcile.Walk

namespace SandboxTasks.Reconcile

open Store

variable {p : Policy} {n : Callback.Notifier} {id : String} {r : Record} {past : History} {s : Unit}

/-- The wait is over before the deadline of the task, as the client was shown it and by the clock as it read it last. -/
def Timely (p : Policy) (past : History) (d : Duration) : Prop :=
  ∃ r, past.Shows r ∧ (d = .zero ∨ ∃ now, past.head? = some ⟨.now, now⟩ ∧ d ≤ p.remaining now r)

namespace Rule

/-- What any job keeps to that is a pass. The store halts it only where it had to give a change up. -/
def ofPass (p : Policy) (n : Callback.Notifier) (id : String) : Rule Unit where
  around := .fitting
  may past _ op := (Job.pass p n).May id past op
  halts past _
    | .store _ => past.GaveUp rounds
    | .provision _ => True

def Shown (id : String) (r : Record) (past : History) (_ : Unit) : Prop := r.id = id ∧ past.Shows r

theorem Shown.cons (h : Shown id r past s) (turn : Turn) : Shown id r (turn :: past) s := ⟨h.1, h.2.cons turn⟩

theorem shown_modified {change : Change} {rounds : Nat} {past' : History} {modified : Modified}
    (h : past.Modifies id change rounds past' (.ok modified)) : Shown id modified.task.record past' s := by
  cases modified with
  | applied t => exact ⟨h.2.2, History.shows_of_lastSeen h.2.1⟩
  | unchanged t => exact ⟨h.2.2.1, History.shows_of_lastSeen h.2.1⟩

theorem asks_shown {op : Operation} (h : ∀ past, (Job.pass p n).May id past op) :
    Asks (ofPass p n id).around (ofPass p n id).may (Shown id r) op fun _ => Shown id r :=
  fun past _ hshown _ _ => ⟨h past, fun _ _ _ => hshown.cons _⟩

theorem modify_shown {change : Change} (h : change.OfPass) :
    (ofPass p n id).Triple (Shown id r) (modify id change) fun modified past s =>
      Shown id r past s ∧ Shown id modified.task.record past s := by
  refine .ofStore fun past _ hshown => ?_
  have hmodifies : Conforms ((Job.pass p n).May id) _ past (Store.modify id change) :=
    Job.modifyWithin_conforms (.pass p n past.writes h) rounds
  refine hmodifies.upholds.suffix.mono ?_
  rintro past' _ result ⟨hmodifies, hpast⟩
  cases result with
  | ok modified => exact ⟨⟨hshown.1, hshown.2.of_suffix hpast⟩, shown_modified hmodifies⟩
  | error e =>
      obtain ⟨-, recent, rfl, hgave⟩ := hmodifies
      exact hgave.after past

theorem cleans_ofPass (p : Policy) (n : Callback.Notifier) (r : Record) :
    (ofPass p n id).Cleans r (Shown id r) where
  now := asks_shown fun _ => trivial
  send _ _ _ _ := asks_shown fun _ => trivial
  deleteClaim := .deleteClaim (asks_shown fun _ => trivial) fun _ _ _ _ => trivial
  sandboxDeleted reason := .given (fun _ _ h => h.1) fun hid => by
    subst hid
    exact (modify_shown (.sandboxDeleted reason)).mono fun _ _ _ h => h.1
  notified delivered reason message := .given (fun _ _ h => h.1) fun hid => by
    subst hid
    exact (modify_shown (.notified delivered reason message)).mono fun _ _ _ h => h.1

theorem steps_ofPass (p : Policy) (n : Callback.Notifier) (id : String) :
    (ofPass p n id).Steps p id (Shown id) (Shown id)
      (fun outcome past _ => ∀ d, outcome = .requeue d → Timely p past d) where
  named _ _ _ h := h.1
  seen _ _ _ h := h
  cleans := cleans_ofPass p n
  now r := asks_shown fun _ => trivial
  poll r := .poll (asks_shown fun _ => trivial) fun _ _ _ _ => trivial
  change r change h := modify_shown h.ofPass
  requeue r after := by
    have hclock : (ofPass p n id).Triple (Shown id r) (wait .now) fun now past s =>
        Shown id r past s ∧ past.head? = some ⟨.now, now⟩ :=
      fun past _ hshown _ _ => ⟨trivial, fun now _ _ => ⟨hshown.cons _, rfl⟩⟩
    refine .bind hclock fun now => .pure ?_
    rintro past s ⟨hshown, hnow⟩ _ ⟨⟩
    exact ⟨r, hshown.2, .inr ⟨now, hnow, Duration.shorter_le _ _⟩⟩
  again r past s h := by
    rintro _ ⟨⟩
    exact ⟨r, h.2, .inl rfl⟩
  done r past s h := by rintro _ ⟨⟩

theorem walks_ofPass (p : Policy) (n : Callback.Notifier) (id : String) :
    (ofPass p n id).Walks p n id (fun _ _ => True) (Shown id) (Shown id)
      (fun outcome past _ => ∀ d, outcome = .requeue d → Timely p past d) where
  toSteps := steps_ofPass p n id
  find := .ofStore fun past _ _ _ _ => ⟨rfl, fun found _ hfits => by
    match found, hfits with
    | .error e, _ => exact .inr ⟨_, .head _, rfl⟩
    | .ok none, _ => exact fun d h => nomatch h
    | .ok (some task), hid => exact ⟨hid, _, .head _, task, rfl, rfl⟩⟩
  provision r hid := (steps_ofPass p n id).provision (fun _ => True)
    (fun past _ hshown _ _ => ⟨trivial, fun _ _ _ => ⟨hshown.cons _, fun _ _ => trivial⟩⟩)
    fun sandbox _ => by
      subst hid
      exact (modify_shown (.recordSandbox sandbox)).mono fun _ _ _ h => h.1
  assign r hid _ := (steps_ofPass p n id).assign
    ⟨fun _ _ => asks_shown fun _ => trivial, fun _ _ h => modify_shown h.ofPass⟩ hid

end Rule

theorem pass_settles : Conforms ((Job.pass p n).May id) (fun past => (Rule.ofPass p n id).Settles (fun outcome past _ =>
    ∀ d, outcome = .requeue d → Timely p past d) past ()) [] (pass p n id) :=
  ((Rule.walks_ofPass p n id).pass [] () trivial).conforms

theorem pass_halts : Conforms ((Job.pass p n).May id) (fun past result => ∀ e, result = .error (.store e) →
    past.GaveUp rounds) [] (pass p n id) := by
  apply pass_settles.mono
  rintro past _ hsettles e rfl
  exact hsettles

theorem pass_timely : Conforms (fun _ _ => True) (fun past result => ∀ d, result = .ok (.requeue d) →
    Timely p past d) [] (pass p n id) := by
  apply Conforms.mono _ ((pass_settles (n := n)).weaken fun _ _ _ => trivial)
  rintro past _ hsettles d rfl
  exact hsettles d rfl

theorem pass_conforms : Conforms ((Job.pass p n).May id) (Job.pass p n).Ends [] (pass p n id) :=
  pass_settles.mono fun _ _ _ => trivial

end SandboxTasks.Reconcile
