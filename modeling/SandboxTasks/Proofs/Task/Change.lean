import SandboxTasks.Proofs.Concurrent.Job
import SandboxTasks.Proofs.Task.Condition

namespace SandboxTasks

variable {now : Instant} {r : Record} {next : Status}

def Condition.Kind.OfCleanup : Condition.Kind → Prop
  | .sandboxDeleted | .notified => True
  | _ => False

theorem Status.terminate_eq_none {s : Status} {now : Instant} {reason : EndReason} {message : Option String} :
    s.terminate? now reason message = none ↔ s.phase.isTerminal := by
  unfold terminate?
  split
  · next h => simp [h]
  · next h => simp [h]

/-- What only a pass writes, on the way of a task to its worker, is the same. -/
structure Status.SameCourse (s next : Status) : Prop where
  sandbox : next.sandbox = s.sandbox
  attempts : next.attempts = s.attempts
  provisioningSince : next.provisioningSince = s.provisioningSince
  readyAt : next.readyAt = s.readyAt

namespace Status.SameCourse

theorem refl (s : Status) : s.SameCourse s := ⟨rfl, rfl, rfl, rfl⟩

theorem trans {s next last : Status} (h : s.SameCourse next) (h' : next.SameCourse last) : s.SameCourse last :=
  ⟨h'.sandbox.trans h.sandbox, h'.attempts.trans h.attempts, h'.provisioningSince.trans h.provisioningSince,
    h'.readyAt.trans h.readyAt⟩

end Status.SameCourse

namespace Change

theorem conditions_noteWorker (s : Status) : (noteWorker now s).conditions = s.conditions := by
  unfold noteWorker
  split <;> rfl

theorem course_noteWorker (s : Status) : s.SameCourse (noteWorker now s) := by
  unfold noteWorker
  split
  · exact ⟨rfl, rfl, rfl, rfl⟩
  · exact .refl s

theorem terminate_eq {s : Status} {reason : EndReason} {message : Option String}
    (h : s.terminate? now reason message = some next) :
    next = { s with phase := reason.phase, reason := some reason, message, completedAt := some now } := by
  obtain ⟨-, hnext⟩ := Option.ite_none_left_eq_some.mp h
  cases hnext
  rfl

theorem course_terminate {s : Status} {reason : EndReason} {message : Option String}
    (h : s.terminate? now reason message = some next) : s.SameCourse next := by
  rw [terminate_eq h]
  exact ⟨rfl, rfl, rfl, rfl⟩

theorem keeps_reported (report : Report) (s : Status) :
    (reported report now s).conditions = s.conditions ∧ s.SameCourse (reported report now s) := by
  have hworker : (noteWorker now s).conditions = s.conditions ∧ s.SameCourse (noteWorker now s) :=
    ⟨conditions_noteWorker s, course_noteWorker s⟩
  have hend (reason : EndReason) (message : Option String) :
      ((s.terminate? now reason message).getD s).conditions = s.conditions ∧
      s.SameCourse ((s.terminate? now reason message).getD s) := by
    cases h : s.terminate? now reason message with
    | none => exact ⟨rfl, .refl s⟩
    | some next =>
        rw [Option.getD_some]
        exact ⟨by rw [terminate_eq h], course_terminate h⟩
  unfold reported
  split
  · exact ⟨hworker.1, hworker.2.trans ⟨rfl, rfl, rfl, rfl⟩⟩
  · exact ⟨hworker.1, hworker.2.trans ⟨rfl, rfl, rfl, rfl⟩⟩
  · exact ⟨(hend ..).1, (hend ..).2.trans ⟨rfl, rfl, rfl, rfl⟩⟩
  · exact ⟨(hend ..).1, (hend ..).2.trans ⟨rfl, rfl, rfl, rfl⟩⟩

theorem conditions_terminate {s : Status} {reason : EndReason} {message : Option String}
    (h : s.terminate? now reason message = some next) : next.conditions = s.conditions := by
  rw [terminate_eq h]

theorem report_eq {report : Report} (h : Change.report report now r = some next) :
    r.status.phase.isTerminal = false ∧ next = reported report now r.status := by
  obtain ⟨hs, h⟩ := Option.ite_none_left_eq_some.mp h
  obtain ⟨-, hnext⟩ := Option.ite_none_left_eq_some.mp h
  exact ⟨by simpa using hs, (Option.some.inj hnext).symm⟩

theorem markReady_eq {address : String} (h : markReady address now r = some next) :
    r.status.phase = .provisioning ∧ next = { r.status with
      phase := .ready
      readyAt := some now
      conditions := Condition.set now .sandboxReady true "Ready" none r.status.conditions
      sandbox := r.status.sandbox.map fun sandbox => { sandbox with address := some address } } := by
  obtain ⟨hphase, hnext⟩ := Option.ite_none_right_eq_some.mp h
  exact ⟨hphase, (Option.some.inj hnext).symm⟩

theorem conditions_report {report : Report} (h : Change.report report now r = some next) :
    next.conditions = r.status.conditions := by
  rw [(report_eq h).2, (keeps_reported report r.status).1]

/-- A change of a pass leaves the conditions alone, or records one; one of cleaning up it records for the first time. -/
theorem OfPass.conditions {change : Change} (hpass : change.OfPass) (h : change now r = some next) :
    next.conditions = r.status.conditions ∨ ∃ kind holds reason message, kind ≠ .tokenIssued ∧
      (kind.OfCleanup → r.status.has kind = false) ∧
      next.conditions = (r.status.setCondition now kind holds reason message).conditions := by
  cases hpass with
  | finish => exact .inl (conditions_terminate h)
  | sandboxDeleted | notified =>
      obtain ⟨hnew, he⟩ := Option.ite_none_left_eq_some.mp h
      cases he
      exact .inr ⟨_, _, _, _, by decide, fun _ => by simpa using hnew, rfl⟩
  | markReady =>
      obtain ⟨-, he⟩ := Option.ite_none_right_eq_some.mp h
      cases he
      exact .inr ⟨.sandboxReady, _, _, _, by decide, False.elim, rfl⟩
  | assigned =>
      obtain ⟨-, he⟩ := Option.ite_none_right_eq_some.mp h
      cases he
      exact .inl (conditions_noteWorker r.status)
  | recordSandbox | forgetSandbox | assignmentFailed | startProvisioning | startAssigning =>
      obtain ⟨-, he⟩ := Option.ite_none_right_eq_some.mp h
      cases he
      exact .inl rfl

end Change

end SandboxTasks
