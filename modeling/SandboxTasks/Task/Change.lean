import SandboxTasks.Report.Event
import SandboxTasks.Task.Record

namespace SandboxTasks

abbrev Change := Instant → Record → Option Status

namespace Change

def finish (reason : EndReason) (message : Option String) : Change := fun now r => r.status.terminate? now reason message

def cancel : Change := finish .canceled (some "canceled by request")

/-- The worker is at work: a task that waits for it runs from now on. -/
def noteWorker (now : Instant) (s : Status) : Status :=
  if s.phase = .ready ∨ s.phase = .assigning then
    { s with phase := .running, assignedAt := some (s.assignedAt.getD now) }
  else s

def reported (report : Report) (now : Instant) (s : Status) : Status :=
  match report.kind with
  | .started | .progress =>
    let s := noteWorker now s
    { s with progress := report.message.orElse fun _ => s.progress }
  | .completed | .failed =>
    let reason := if report.kind = .completed then EndReason.completed else .workerReportedFailure
    let s := (s.terminate? now reason report.message).getD s
    { s with pullRequest := report.pullRequest?.orElse fun _ => s.pullRequest }

def report (report : Report) : Change := fun now r =>
  if r.status.phase.isTerminal then none
  else
    let next := reported report now r.status
    if next = r.status then none else some next

def reserveCredential : Change := fun now r =>
  if r.status.phase.isTerminal || r.status.has .tokenIssued then none
  else some (r.status.setCondition now .tokenIssued true "Issued" none)

def releaseCredential : Change := fun _ r =>
  if r.status.has .tokenIssued then some (r.status.removeCondition .tokenIssued) else none

def startProvisioning : Change := fun now r =>
  if r.status.phase = .pending then some { r.status with phase := .provisioning, provisioningSince := some now }
  else none

def recordSandbox (sandbox : SandboxRef) : Change := fun _ r =>
  if r.status.phase = .provisioning ∧ r.status.sandbox.isNone then some { r.status with sandbox := some sandbox }
  else none

def forgetSandbox : Change := fun _ r =>
  if r.status.phase = .provisioning ∧ r.status.sandbox.isSome then some { r.status with sandbox := none } else none

def markReady (address : String) : Change := fun now r =>
  if r.status.phase = .provisioning then
    let s := { r.status with phase := .ready, readyAt := some now }
    let s := s.setCondition now .sandboxReady true "Ready" none
    some { s with sandbox := s.sandbox.map fun b => { b with address := some address } }
  else none

def startAssigning : Change := fun _ r =>
  if r.status.phase = .ready then some { r.status with phase := .assigning } else none

def assigned : Change := fun now r =>
  if r.status.phase = .ready ∨ r.status.phase = .assigning then
    some { noteWorker now r.status with assignmentError := none }
  else none

/-- An assignment failed; it counts against the limit or not. -/
def assignmentFailed (message : String) (counted : Bool) : Change := fun _ r =>
  if r.status.phase = .assigning then
    some { r.status with
      attempts := if counted then r.status.attempts + 1 else r.status.attempts
      assignmentError := some message }
  else none

def sandboxDeleted (reason : String) : Change := fun now r =>
  if r.status.has .sandboxDeleted then none else some (r.status.setCondition now .sandboxDeleted true reason none)

def notified (delivered : Bool) (reason : String) (message : Option String) : Change := fun now r =>
  if r.status.has .notified then none else some (r.status.setCondition now .notified delivered reason message)

end Change

end SandboxTasks
