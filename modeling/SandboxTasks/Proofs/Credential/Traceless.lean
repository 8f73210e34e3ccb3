import SandboxTasks.Config.Basic
import SandboxTasks.Proofs.Credential.Reservation
import SandboxTasks.Proofs.Store.Undisturbed
import SandboxTasks.Proofs.Task.Outcome

namespace SandboxTasks

open Store

variable {now : Instant} {r : Record} {change : Change}

def Job.isForCredential : Job → Bool
  | credential _ | leftover _ => true
  | _ => false

def Change.OfOthers (change : Change) : Prop := ∃ j writes, Job.Makes j writes change ∧ j.isForCredential = false

theorem Change.OfOthers.cases (h : change.OfOthers) : (∃ report, change = Change.report report) ∨ change.OfPass := by
  obtain ⟨j, writes, hmakes, hj⟩ := h
  cases hmakes with
  | report r => exact .inl ⟨r, rfl⟩
  | cancel => exact .inr (.finish ..)
  | pass _ _ _ hpass => exact .inr hpass
  | reserve | giveBack | release => cases hj

/-- The record but for the mark of an issued credential. -/
def Record.unmarked (r : Record) : Record := { r with status := r.status.removeCondition .tokenIssued }

/-- The change does not see the mark, and leaves it where it is. -/
def Change.Blind (change : Change) : Prop :=
  ∀ now r, change now r.unmarked = (change now r).map (·.removeCondition .tokenIssued)

theorem Status.eq_of_removeCondition {s next : Status} {kind : Condition.Kind}
    (h : next.removeCondition kind = s.removeCondition kind) (hconditions : next.conditions = s.conditions) :
    next = s := by
  cases s
  cases next
  simp_all [Status.removeCondition]

namespace Change

theorem removeCondition_noteWorker (kind : Condition.Kind) (s : Status) :
    noteWorker now (s.removeCondition kind) = (noteWorker now s).removeCondition kind := by
  unfold noteWorker
  rw [apply_ite (fun s : Status => s.removeCondition kind)]
  rfl

theorem terminate_removeCondition (kind : Condition.Kind) (s : Status) (reason : EndReason) (message : Option String) :
    (s.removeCondition kind).terminate? now reason message =
      (s.terminate? now reason message).map (·.removeCondition kind) := by
  unfold Status.terminate?
  rw [apply_ite (Option.map fun s : Status => s.removeCondition kind)]
  rfl

theorem removeCondition_reported (report : Report) (kind : Condition.Kind) (s : Status) :
    reported report now (s.removeCondition kind) = (reported report now s).removeCondition kind := by
  unfold reported
  split
  · rw [removeCondition_noteWorker]; rfl
  · rw [removeCondition_noteWorker]; rfl
  · simp only [terminate_removeCondition, Option.getD_map]; rfl
  · simp only [terminate_removeCondition, Option.getD_map]; rfl

theorem blind_report (report : Report) : (Change.report report).Blind := by
  intro now r
  have hsame : reported report now r.unmarked.status = r.unmarked.status ↔ reported report now r.status = r.status := by
    rw [Record.unmarked, removeCondition_reported]
    exact ⟨fun h => Status.eq_of_removeCondition h (keeps_reported report r.status).1, fun h => by rw [h]⟩
  have hphase : r.unmarked.status.phase = r.status.phase := rfl
  simp only [Change.report, hphase, hsame, apply_ite (Option.map _), Option.map_none, Option.map_some]
  rw [Record.unmarked, removeCondition_reported]

theorem removeCondition_setCondition {s : Status} {k kind : Condition.Kind} (h : k ≠ kind) (holds : Bool)
    (reason : String) (message : Option String) :
    (s.removeCondition kind).setCondition now k holds reason message =
      (s.setCondition now k holds reason message).removeCondition kind := by
  simp only [Status.removeCondition, Status.setCondition, Condition.remove_set_of_ne h]

theorem map_ite {c : Prop} [Decidable c] {x x' y y' : Option Status} {kind : Condition.Kind}
    (hx : x' = x.map (·.removeCondition kind)) (hy : y' = y.map (·.removeCondition kind)) :
    (if c then x' else y') = (if c then x else y).map (·.removeCondition kind) := by
  rw [hx, hy, apply_ite (Option.map _)]

theorem OfPass.blind (h : change.OfPass) : change.Blind := by
  intro now r
  have hhas (kind : Condition.Kind) (h : kind ≠ .tokenIssued) : r.unmarked.status.has kind = r.status.has kind := by
    simp [Record.unmarked, Ne.symm h]
  cases h with
  | finish => exact terminate_removeCondition ..
  | startProvisioning | startAssigning | recordSandbox | forgetSandbox | assignmentFailed => exact map_ite rfl rfl
  | assigned =>
      refine map_ite ?_ rfl
      rw [Record.unmarked, removeCondition_noteWorker]
      rfl
  | markReady =>
      have hkind : Condition.Kind.sandboxReady ≠ .tokenIssued := by decide
      refine map_ite ?_ rfl
      simp only [Record.unmarked, Status.setCondition, Status.removeCondition, Option.map_some,
        Condition.remove_set_of_ne hkind]
  | sandboxDeleted =>
      simp only [Change.sandboxDeleted, hhas .sandboxDeleted (by decide)]
      exact map_ite rfl (congrArg some (removeCondition_setCondition (by decide) ..))
  | notified =>
      simp only [Change.notified, hhas .notified (by decide)]
      exact map_ite rfl (congrArg some (removeCondition_setCondition (by decide) ..))

theorem OfOthers.blind (h : change.OfOthers) : change.Blind := by
  obtain ⟨report, rfl⟩ | hpass := h.cases
  · exact blind_report report
  · exact hpass.blind

theorem OfOthers.has_tokenIssued {next : Status} (h : change.OfOthers) (hnext : change now r = some next) :
    next.has .tokenIssued = r.status.has .tokenIssued := by
  obtain ⟨report, rfl⟩ | hpass := h.cases
  · exact Status.has_congr (conditions_report hnext)
  · exact hpass.has_tokenIssued hnext

end Change

namespace Record

def after (r : Record) (changes : List (Change × Instant)) : Record := changes.foldl (fun r w => r.changed w.1 w.2) r

variable {changes : List (Change × Instant)}

theorem unmarked_changed (h : change.Blind) : (r.changed change now).unmarked = r.unmarked.changed change now := by
  unfold changed
  rw [h now r]
  cases change now r <;> rfl

theorem unmarked_after (h : ∀ w ∈ changes, w.1.OfOthers) : (r.after changes).unmarked = r.unmarked.after changes := by
  induction changes generalizing r with
  | nil => rfl
  | cons w ws ih =>
      obtain ⟨hw, hws⟩ := List.forall_mem_cons.mp h
      simp only [after, List.foldl_cons] at ih ⊢
      rw [ih hws, unmarked_changed hw.blind]

theorem has_after (h : ∀ w ∈ changes, w.1.OfOthers) :
    (r.after changes).status.has .tokenIssued = r.status.has .tokenIssued := by
  induction changes generalizing r with
  | nil => rfl
  | cons w ws ih =>
      obtain ⟨hw, hws⟩ := List.forall_mem_cons.mp h
      refine (ih (r := r.changed w.1 w.2) hws).trans ?_
      unfold changed
      cases hnext : w.1 w.2 r with
      | none => rfl
      | some next => exact hw.has_tokenIssued hnext

theorem unmarked_reserved {next : Status} (h : Change.reserveCredential now r = some next) :
    unmarked { r with status := next } = r := by
  obtain ⟨hfree, -⟩ := Change.reserveCredential_has h
  obtain ⟨-, hnext⟩ := Option.ite_none_left_eq_some.mp h
  cases hnext
  have hnone : Condition.find? r.status.conditions .tokenIssued = none := Status.condition?_eq_none.mpr hfree
  simp only [unmarked, Status.removeCondition, Status.setCondition, Condition.remove_set_self,
    Condition.remove_of_absent hnone]

/-- Taking the mark off after changes of others leaves what they make of the record that never had it. -/
theorem released_after {next : Status} {later : Instant} (h : Change.reserveCredential now r = some next)
    (hothers : ∀ w ∈ changes, w.1.OfOthers) :
    (after { r with status := next } changes).changed Change.releaseCredential later = r.after changes := by
  have hmarked : (after { r with status := next } changes).status.has .tokenIssued := by
    rw [has_after hothers]
    exact (Change.reserveCredential_has h).2
  calc (after { r with status := next } changes).changed Change.releaseCredential later
      = (after { r with status := next } changes).unmarked := by
        simp [changed, Change.releaseCredential, hmarked, unmarked]
    _ = (unmarked { r with status := next }).after changes := unmarked_after hothers
    _ = r.after changes := by rw [unmarked_reserved h]

end Record

namespace Store.Memory

variable {m m' : Memory} {id : String} {others : (op : Operation) → op.Answer} {changes : List (Change × Instant)}

/-- One client after the other has the store to itself, at its own instant, and makes its change of the task. -/
def course (m : Memory) (others : (op : Operation) → op.Answer) (id : String) (changes : List (Change × Instant)) :
    Memory :=
  changes.foldl (fun m w => ((Store.modify id w.1).run (answer w.2 others) m).2) m

theorem record?_course (hr : m.record? id = some r) (hothers : ∀ w ∈ changes, w.1.OfOthers) :
    (m.course others id changes).record? id = some (r.after changes) := by
  induction changes generalizing m r with
  | nil => exact hr
  | cons w ws ih =>
      obtain ⟨⟨j, writes, hmakes, -⟩, hws⟩ := List.forall_mem_cons.mp hothers
      obtain ⟨t, m', hrun, -, hr'⟩ := run_modify w.2 others hr fun next h => (hmakes.follows h).mayBecome
      have hcourse : m.course others id (w :: ws) = m'.course others id ws := by
        rw [course, List.foldl_cons, hrun]
        rfl
      rw [hcourse, ih hr' hws]
      rfl

theorem record?_reserve {repository : Repository}
    (h : (Credential.reserve id).run (answer now others) m = (.ok repository, m')) :
    ∃ r next, m.record? id = some r ∧ Change.reserveCredential now r = some next ∧
      m'.record? id = some { r with status := next } := by
  rw [Credential.reserve, Program.run_bind] at h
  cases hr : m.record? id with
  | none =>
      rw [run_modify_absent now others hr] at h
      cases h
  | some r =>
      obtain ⟨t, m'', hrun, ht, hr'⟩ := run_modify now others hr fun next h =>
        (Change.reserveCredential_follows h).mayBecome
      rw [hrun] at h
      cases hnext : Change.reserveCredential now r with
      | none =>
          simp only [hnext, Option.isSome_none, Bool.false_eq_true, if_false, Modified.isApplied, Modified.task] at h
          split at h <;> cases h
      | some next =>
          simp only [hnext, Option.isSome_some, if_true, Modified.isApplied, Program.run_pure] at h
          cases h
          exact ⟨r, next, rfl, hnext, by simpa [Record.changed, hnext] using hr'⟩

/-- Of a request for a credential that fails nothing stays. Whatever others make of the task while it has the mark, once
the mark is taken off the record is what they make of it, at the same clock readings, if nobody asks. -/
theorem failed_request_traceless {repository : Repository} (later : Instant)
    (hreserve : (Credential.reserve id).run (answer now others) m = (.ok repository, m'))
    (hothers : ∀ w ∈ changes, w.1.OfOthers) :
    ∃ r, m.record? id = some r ∧ r.status.has .tokenIssued = false ∧
      ((Credential.release id).run (answer later others) (m'.course others id changes)).2.record? id =
        some (r.after changes) ∧
      (m.course others id changes).record? id = some (r.after changes) := by
  obtain ⟨r, next, hr, hmarked, hr'⟩ := record?_reserve hreserve
  refine ⟨r, hr, (Change.reserveCredential_has hmarked).1, ?_, record?_course hr hothers⟩
  obtain ⟨t, released, hrun, -, hreleased⟩ := run_modify later others (record?_course hr' hothers) fun next h =>
    (Change.releaseCredential_follows h).mayBecome
  rw [Credential.release, Program.run_bind, hrun, ← Record.released_after hmarked hothers]
  exact hreleased

def meanwhileCanceled : List (Change × Instant) :=
  [(Change.startProvisioning, .ofNanos 1), (Change.report ⟨.progress, some "cloning", none⟩, .ofNanos 2),
    (Change.cancel, .ofNanos 3), (Change.sandboxDeleted "Deleted", .ofNanos 4)]

theorem meanwhileCanceled_ofOthers : ∀ w ∈ meanwhileCanceled, w.1.OfOthers := by
  simp only [meanwhileCanceled, List.forall_mem_cons]
  have hpass {change : Change} (h : change.OfPass) : change.OfOthers :=
    ⟨.pass (Config.default.policy "") .off, 0, .pass _ _ _ h, rfl⟩
  exact ⟨hpass .startProvisioning, ⟨_, _, .report _, rfl⟩, ⟨_, _, .cancel, rfl⟩, hpass (.sandboxDeleted _), by simp⟩

theorem failed_request_traceless_canceled :
    ∃ m', (Credential.reserve "task").run (answer default (·.answerInNewWorld)) (holding sample 1) =
        (.ok sample.spec.repository, m') ∧
      (m'.record? "task").map (·.status.has .tokenIssued) = some true ∧
      ∃ r, ((Credential.release "task").run (answer (.ofNanos 5) (·.answerInNewWorld))
          (m'.course (·.answerInNewWorld) "task" meanwhileCanceled)).2.record? "task" = some r ∧
        r.status.phase = .canceled ∧ r.status.conditions = [⟨.sandboxDeleted, true, "Deleted", none, .ofNanos 4⟩] := by
  have hreserve : (Credential.reserve "task").run (answer default (·.answerInNewWorld)) (holding sample 1) =
      (.ok sample.spec.repository,
        holding { sample with status := sample.status.setCondition default .tokenIssued true "Issued" none } 2) := rfl
  refine ⟨_, hreserve, rfl, ?_⟩
  obtain ⟨r, hr, -, hreleased, -⟩ := failed_request_traceless (.ofNanos 5) hreserve meanwhileCanceled_ofOthers
  cases hr
  exact ⟨_, hreleased, rfl, rfl⟩

end Store.Memory

end SandboxTasks
