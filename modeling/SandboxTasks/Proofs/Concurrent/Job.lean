import SandboxTasks.Credential.Issue
import SandboxTasks.Proofs.Store.Rounds
import SandboxTasks.Reconcile.Pass
import SandboxTasks.Report.Apply

namespace SandboxTasks

inductive Job where
  | report (report : Report)
  | cancel
  | credential (configured : Bool)
  | pass (policy : Reconcile.Policy) (notifier : Callback.Notifier)
  | leftover (waiting : Operation)

inductive Change.OfPass : Change → Prop
  | startProvisioning : OfPass Change.startProvisioning
  | recordSandbox (sandbox) : OfPass (Change.recordSandbox sandbox)
  | forgetSandbox : OfPass Change.forgetSandbox
  | markReady (address) : OfPass (Change.markReady address)
  | startAssigning : OfPass Change.startAssigning
  | assigned : OfPass Change.assigned
  | assignmentFailed (message counted) : OfPass (Change.assignmentFailed message counted)
  | finish (reason message) : OfPass (Change.finish reason message)
  | sandboxDeleted (reason) : OfPass (Change.sandboxDeleted reason)
  | notified (delivered reason message) : OfPass (Change.notified delivered reason message)

namespace History

def SeenUnmarked (past : History) : Prop :=
  ∃ t, past.lastSeen? = some t ∧ t.record.status.has .tokenIssued = false

/-- Reasons to give a change up: so many rounds were lost, or the store failed, or the task was gone. -/
def GaveUp (rounds : Nat) (recent : History) : Prop := rounds ≤ recent.countP (·.lost) ∨ ∃ turn ∈ recent, turn.failed

theorem GaveUp.after {rounds : Nat} {recent : History} (h : GaveUp rounds recent) (past : History) :
    GaveUp rounds (recent ++ past) := by
  rcases h with hcount | ⟨turn, hmem, hfailed⟩
  · exact .inl (by rw [List.countP_append]; omega)
  · exact .inr ⟨turn, List.mem_append_left _ hmem, hfailed⟩

/-- Where a change with so many rounds may leave its client. -/
def Modifies (id : String) (change : Change) (rounds : Nat) (past past' : History) :
    Except StoreError Store.Modified → Prop
  | .ok (.applied t) => past'.writes = past.writes + 1 ∧ past'.lastSeen? = some t ∧ t.record.id = id
  | .ok (.unchanged t) =>
      past'.writes = past.writes ∧ past'.lastSeen? = some t ∧ t.record.id = id ∧ ∃ now, change now t.record = none
  | .error _ => past'.writes = past.writes ∧ ∃ recent, past' = recent ++ past ∧ GaveUp rounds recent

/-- All rounds that were made since were lost, and so many are left. -/
structure Beaten (rounds : Nat) (past : History) (left : Nat) (past' : History) : Prop where
  writes : past'.writes = past.writes
  lost : ∃ recent, past' = recent ++ past ∧ rounds ≤ recent.countP (·.lost) + left

variable {rounds left : Nat} {past past' : History} {id : String} {change : Change}

theorem beaten_self (rounds : Nat) (past : History) : past.Beaten rounds rounds past :=
  ⟨rfl, [], rfl, by simp⟩

theorem Beaten.cons {turn : Turn} (h : past.Beaten rounds left past') (hwrote : turn.wrote = false) :
    past.Beaten rounds left (turn :: past') := by
  obtain ⟨recent, rfl, hlost⟩ := h.lost
  refine ⟨by simp [h.writes, hwrote], turn :: recent, rfl, ?_⟩
  rw [List.countP_cons]
  omega

theorem Beaten.again {turn : Turn} (h : past.Beaten rounds (left + 1) past') (hwrote : turn.wrote = false)
    (hturn : turn.lost) : past.Beaten rounds left (turn :: past') := by
  obtain ⟨recent, rfl, hlost⟩ := h.lost
  refine ⟨by simp [h.writes, hwrote], turn :: recent, rfl, ?_⟩
  rw [List.countP_cons, if_pos hturn]
  omega

theorem Beaten.exhausted {e : StoreError} (h : past.Beaten rounds 0 past') :
    past.Modifies id change rounds past' (.error e) := by
  obtain ⟨recent, rfl, hlost⟩ := h.lost
  exact ⟨h.writes, recent, rfl, .inl hlost⟩

theorem Beaten.failed {turn : Turn} {e : StoreError} (h : past.Beaten rounds left past') (hwrote : turn.wrote = false)
    (hturn : turn.failed) : past.Modifies id change rounds (turn :: past') (.error e) := by
  obtain ⟨recent, rfl, -⟩ := h.lost
  exact ⟨by simp [h.writes, hwrote], turn :: recent, rfl, .inr ⟨turn, .head _, hturn⟩⟩

end History

namespace Job

abbrev Result : Job → Type
  | report _ => Except StoreError Report.Verdict
  | cancel => Except StoreError (Option Phase)
  | credential _ => Except CredentialError Grant
  | pass _ _ => Except Reconcile.Error Reconcile.Outcome
  | leftover _ => Unit

def routine (id : String) : (j : Job) → Routine j.Result
  | report r => Report.apply id r
  | cancel => Reconcile.cancel id
  | credential configured => Credential.issue configured id
  | pass policy notifier => Reconcile.pass policy notifier id
  | leftover waiting => Credential.abandoned waiting

inductive Makes : Job → Nat → Change → Prop
  | report (r) : Makes (report r) 0 (Change.report r)
  | cancel : Makes cancel 0 Change.cancel
  | reserve (configured) : Makes (credential configured) 0 Change.reserveCredential
  | giveBack (configured) : Makes (credential configured) 1 Change.releaseCredential
  | release (id repository) : Makes (leftover (.exchange id repository)) 0 Change.releaseCredential
  | pass (policy notifier writes) {change} (h : change.OfPass) : Makes (pass policy notifier) writes change

/-- What a job may request of the task `id`, after what it has done so far. -/
def May (id : String) (j : Job) (past : History) : Operation → Prop
  | .find i => i = id
  | .swap i version status => i = id ∧ ∃ seen now change,
      past.lastSeen? = some seen ∧ seen.version = version ∧ j.Makes past.writes change ∧
        change now seen.record = some status ∧ past.head? = some ⟨.now, now⟩
  | .exchange i _ => i = id ∧ (∃ configured, j = credential configured) ∧ past.writes = 1
  | .create _ _ | .erase _ => False
  | _ => True

/-- How a job may end. A grant is held with the one write of the reservation. A reservation that was not taken back
could not be, and neither could one left behind. -/
def Ends (j : Job) (past : History) (result : j.Result) : Prop :=
  match j, result with
  | credential _, .ok _ => past.writes = 1
  | credential _, .error _ => past.writes = 1 →
      (∃ recent i repository e earlier, past = recent ++ ⟨.exchange i repository, .error e⟩ :: earlier ∧
        History.GaveUp Store.rounds recent) ∨ past.SeenUnmarked
  | leftover (.exchange _ _), () => past.writes = 0 → past.GaveUp Store.rounds ∨ past.SeenUnmarked
  | _, _ => True

variable {id : String} {j : Job} {past : History} {change : Change}

theorem rounds_fitting (h : j.Makes past.writes change) (rounds : Nat) :
    Store.Rounds .fitting (fun past _ => j.May id past) id change (fun left past' _ => past.Beaten rounds left past')
      (fun left q past' _ => past.Beaten rounds (left + 1) past' ∧ past'.lastSeen? = some q ∧ q.record.id = id)
      (fun left q now past' _ => past.Beaten rounds (left + 1) past' ∧ past'.lastSeen? = some q ∧ q.record.id = id ∧
        past'.head? = some ⟨.now, now⟩)
      fun result past' _ => past.Modifies id change rounds past' result where
  exhausted _ _ hbeaten := hbeaten.exhausted
  find left past' _ hbeaten _ _ := by
    refine ⟨rfl, fun found _ hfits => ?_⟩
    match found, hfits with
    | .error _, _ | .ok none, _ => exact hbeaten.failed rfl rfl
    | .ok (some q), hid => exact ⟨hbeaten.cons rfl, rfl, hid⟩
  now left q past' _ hread _ _ := ⟨trivial, fun now _ _ => ⟨hread.1.cons rfl, hread.2.1, hread.2.2, rfl⟩⟩
  unchanged left q now past' _ hclocked hnone := ⟨hclocked.1.writes, hclocked.2.1, hclocked.2.2.1, now, hnone⟩
  swap left q now next hnext past' _ hclocked _ _ := by
    obtain ⟨hbeaten, hseen, hid, hnow⟩ := hclocked
    refine ⟨⟨rfl, q, now, change, hseen, rfl, by rwa [hbeaten.writes], hnext, hnow⟩, fun swapped _ hfits => ?_⟩
    match swapped, hfits with
    | .ok t, hfits => exact ⟨by simp [Turn.wrote, hbeaten.writes], rfl, hfits.1⟩
    | .error (.conflict _), _ => exact hbeaten.again rfl rfl
    | .error (.notFound _), _ | .error (.alreadyExists _), _ | .error (.illegalTransition _ _ _), _
    | .error (.malformed _ _), _ | .error (.cluster _), _ => exact hbeaten.failed rfl rfl

theorem modifyWithin_conforms (h : j.Makes past.writes change) (rounds : Nat) :
    Conforms (j.May id) (past.Modifies id change rounds) past (Store.modifyWithin rounds id change) :=
  ((rounds_fitting h rounds).upholds rounds (past.beaten_self rounds)).conforms

theorem modify_conforms {α : Type} {ends : History → α → Prop} {next : Except StoreError Store.Modified → Routine α}
    (h : j.Makes past.writes change)
    (hnext : ∀ past' result, past.Modifies id change Store.rounds past' result →
      Conforms (j.May id) ends past' (next result)) :
    Conforms (j.May id) ends past (Store.modify id change >>= next) :=
  .bind ((modifyWithin_conforms h Store.rounds).mono hnext)

theorem report_conforms (r : Report) : Conforms ((report r).May id) (report r).Ends [] (Report.apply id r) := by
  refine modify_conforms (.report r) fun past' result _ => ?_
  match result with
  | .error e => cases e <;> exact trivial
  | .ok modified =>
      dsimp only
      split
      · exact trivial
      · split <;> exact trivial

theorem cancel_conforms : Conforms (cancel.May id) cancel.Ends [] (Reconcile.cancel id) := by
  refine modify_conforms .cancel fun past' result _ => ?_
  match result with
  | .ok modified => exact trivial
  | .error e => cases e <;> exact trivial

theorem releaseCredential_eq_none {now : Instant} {r : Record} :
    Change.releaseCredential now r = none ↔ r.status.has .tokenIssued = false := by
  simp [Change.releaseCredential]

theorem release_conforms {ends : History → Unit → Prop} (h : j.Makes past.writes Change.releaseCredential)
    (hends : ∀ past', (past'.writes = past.writes →
      (∃ recent, past' = recent ++ past ∧ History.GaveUp Store.rounds recent) ∨ past'.SeenUnmarked) → ends past' ()) :
    Conforms (j.May id) ends past (Credential.release id) := by
  refine modify_conforms h fun past' result hmodifies => hends past' fun hwrites => ?_
  match result with
  | .ok (.applied t) => exact absurd (hmodifies.1.symm.trans hwrites) (by simp)
  | .ok (.unchanged t) =>
      obtain ⟨-, hseen, -, now, hnone⟩ := hmodifies
      exact .inr ⟨t, hseen, releaseCredential_eq_none.mp hnone⟩
  | .error e => exact .inl hmodifies.2

theorem credential_conforms (configured : Bool) :
    Conforms ((credential configured).May id) (credential configured).Ends [] (Credential.issue configured id) := by
  cases configured with
  | false => exact fun h => nomatch h
  | true =>
      refine Conforms.bind (modify_conforms (.reserve true) fun past result hmodifies => ?_)
      match result with
      | .error (.notFound _) | .error (.alreadyExists _) | .error (.conflict _) | .error (.illegalTransition _ _ _)
      | .error (.malformed _ _) | .error (.cluster _) => exact fun h => absurd (hmodifies.1.symm.trans h) (by simp)
      | .ok (.unchanged t) =>
          have hfresh : past.writes ≠ 1 := by simp [hmodifies.1]
          simp only [Store.Modified.isApplied, Bool.false_eq_true, if_false]
          split <;> exact fun h => absurd h hfresh
      | .ok (.applied t) =>
          obtain ⟨hwrites, -, hid⟩ := hmodifies
          refine ⟨⟨rfl, ⟨true, rfl⟩, hwrites⟩, fun answer _ => ?_⟩
          match answer with
          | .ok grant => exact hwrites
          | .error e =>
              change Conforms _ _ _
                (Credential.release id >>= fun _ => pure (Except.error (CredentialError.exchange e)))
              refine Conforms.bind (release_conforms ?_ fun past' hend h => ?_)
              · simpa [Turn.wrote, hwrites] using Makes.giveBack true
              · rcases hend (by simpa [Turn.wrote, hwrites] using h) with ⟨recent, rfl, hgave⟩ | hunmarked
                · exact .inl ⟨recent, id, _, e, past, rfl, hgave⟩
                · exact .inr hunmarked

theorem leftover_conforms {waiting : Operation} (h : ∀ i repository, waiting = .exchange i repository → i = id) :
    Conforms ((leftover waiting).May id) (leftover waiting).Ends [] (Credential.abandoned waiting) := by
  cases waiting with
  | exchange i repository =>
      obtain rfl := h i repository rfl
      refine release_conforms (.release ..) fun past' hend hwrites => ?_
      simpa using hend hwrites
  | _ => exact trivial

end Job

end SandboxTasks
