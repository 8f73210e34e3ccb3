import SandboxTasks.Callback.Notifier
import SandboxTasks.Reconcile.Policy

namespace SandboxTasks.Reconcile

open Callback

def outcomeEvent (now : Instant) (url : String) (r : Record) : Event where
  url := url
  payload := {
    task := r.id
    outcome := Callback.Outcome.ofPhase r.status.phase
    reason := match r.status.reason with
      | some reason => reason.name
      | none => r.status.phase.name
    pullRequest := r.status.pullRequest
    message := r.status.message
    completedAt := r.status.completedAt.getD now }

def tellOutcome (notifier : Notifier) (r : Record) : Routine Change := do
  match r.spec.callbackUrl with
  | none => return Change.notified false "NoCallback" none
  | some url =>
    let now ← ask .now
    match ← notifier.deliver (outcomeEvent now url r) with
    | .sent => return Change.notified true "CallbackSent" none
    | .failed message => return Change.notified false "CallbackFailed" (some message)

def deletionReason : Sandbox.Deletion → String
  | .deleted => "Deleted"
  | .absent => "AlreadyGone"

def cleanup (notifier : Notifier) (r : Record) : Step Outcome := do
  if !r.status.has .sandboxDeleted then
    let deletion ← ofSandbox (ask (.deleteClaim r.sandbox))
    let _ ← modify r.id (Change.sandboxDeleted (deletionReason deletion))
  if !r.status.has .notified then
    let change ← ExceptT.lift (tellOutcome notifier r)
    let _ ← modify r.id change
  return .done

def finish (notifier : Notifier) (id : String) (reason : EndReason) (message : String) : Step Outcome := do
  let modified ← modify id (Change.finish reason (some message))
  cleanup notifier modified.task.record

/-- Deletes a task's sandbox whatever its phase, for a task that is itself being deleted. -/
def releaseSandbox (r : Record) : Step Unit := do
  if !r.status.has .sandboxDeleted then
    let _ ← ofSandbox (ask (.deleteClaim r.sandbox))

def cancel (id : String) : Routine (Except StoreError (Option Phase)) := do
  match ← Store.modify id Change.cancel with
  | .ok modified => return .ok (some modified.task.record.status.phase)
  | .error (.notFound _) => return .ok none
  | .error e => return .error e

end SandboxTasks.Reconcile
