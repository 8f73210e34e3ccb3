import SandboxTasks.Reconcile.Cleanup
import SandboxTasks.Text.Quoted

namespace SandboxTasks.Reconcile

open Callback

def stateText : Sandbox.State → String
  | .ready address => "Ready \x7b address: " ++ Text.quoted address ++ " \x7d"
  | .exited none => "Exited \x7b reason: None \x7d"
  | .exited (some reason) => "Exited \x7b reason: Some(" ++ Text.quoted reason ++ ") \x7d"
  | .unknown => "Unknown"
  | .absent => "NotFound"

def deadlineMessage (p : Policy) (phase : Phase) : String :=
  "task exceeded its " ++ toString p.taskTimeout.seconds ++ "s deadline in phase " ++ phase.name

def windowMessage (p : Policy) : String :=
  "sandbox not ready within " ++ toString p.provisioningWindow.seconds ++ "s"

def handOver (p : Policy) (n : Notifier) (r : Record) (address : String) : Step Outcome := do
  let attempt := r.status.attempts + 1
  match ← wait (.assign address r.id p.callbackApi) with
  | .ok _ =>
    let _ ← modify r.id Change.assigned
    requeue p r p.runningPoll
  | .error e =>
    let now ← wait .now
    if e matches .refused _ && p.forgives now r.status then
      let _ ← modify r.id (Change.assignmentFailed "connection refused" false)
      requeue p r p.provisioningPoll
    else if p.assignmentMaxAttempts ≤ attempt then
      finish n r.id .assignmentFailure ("assignment failed after " ++ toString attempt ++ " attempts: " ++ e.message)
    else
      let _ ← modify r.id (Change.assignmentFailed e.message true)
      requeue p r (p.assignmentBackoff attempt)

def announce (p : Policy) (n : Notifier) (r : Record) (address : String) : Step Outcome := do
  if r.status.phase = .ready then
    let modified ← modify r.id Change.startAssigning
    if modified.task.record.status.phase ≠ .assigning then return .requeue .zero
  handOver p n r address

def assign (p : Policy) (n : Notifier) (r : Record) : Step Outcome := do
  let state ← ofSandbox (ask (.poll r.sandbox))
  match state with
  | .ready address => announce p n r address
  | .unknown =>
    match r.sandbox.address with
    | some address => announce p n r address
    | none => requeue p r p.provisioningPoll
  | .exited _ | .absent =>
    finish n r.id .runnerExitedWithoutStatus ("sandbox went away before the task started (" ++ stateText state ++ ")")

def markReady (p : Policy) (n : Notifier) (id address : String) : Step Outcome := do
  let modified ← modify id (Change.markReady address)
  let r := modified.task.record
  if r.status.phase = .ready then assign p n r else return .requeue .zero

def provision (p : Policy) (r : Record) : Step Outcome := do
  match ← wait (.provision r) with
  | .error _ => requeue p r p.provisioningPoll
  | .ok sandbox =>
    let _ ← modify r.id (Change.recordSandbox sandbox)
    requeue p r p.provisioningPoll

def awaitReadiness (p : Policy) (n : Notifier) (r : Record) : Step Outcome := do
  let now ← wait .now
  let late := hasElapsed now (r.status.provisioningSince.getD r.createdAt) p.provisioningWindow
  match r.status.sandbox with
  | none => if late then finish n r.id .provisioningTimeout (windowMessage p) else provision p r
  | some sandbox =>
    match ← ofSandbox (ask (.poll sandbox)) with
    | .ready address => markReady p n r.id address
    | state =>
      if late then finish n r.id .provisioningTimeout (windowMessage p)
      else
        if state = .absent then
          let _ ← modify r.id Change.forgetSandbox
        requeue p r p.provisioningPoll

def startProvisioning (p : Policy) (n : Notifier) (r : Record) : Step Outcome := do
  let modified ← modify r.id Change.startProvisioning
  let r := modified.task.record
  if r.status.phase = .provisioning then awaitReadiness p n r else return .requeue .zero

def watch (p : Policy) (n : Notifier) (r : Record) : Step Outcome := do
  match ← ofSandbox (ask (.poll r.sandbox)) with
  | .ready _ | .unknown => requeue p r p.runningPoll
  | .exited reason =>
    finish n r.id .runnerExitedWithoutStatus
      ("worker exited without reporting an outcome (" ++ reason.getD "no reason given" ++ ")")
  | .absent =>
    finish n r.id .runnerExitedWithoutStatus "sandbox disappeared without the worker reporting an outcome"

def advance (p : Policy) (n : Notifier) (r : Record) : Step Outcome :=
  match r.status.phase with
  | .pending => startProvisioning p n r
  | .provisioning => awaitReadiness p n r
  | .ready | .assigning => assign p n r
  | .running => watch p n r
  | .completed | .failed | .timedOut | .canceled => cleanup n r

def pass (p : Policy) (n : Notifier) (id : String) : Step Outcome := do
  match ← ofStore (ask (.find id)) with
  | none => return .done
  | some task =>
    let r := task.record
    if r.status.phase.isTerminal then cleanup n r
    else
      let now ← wait .now
      -- The deadline comes before anything else, also before the window of a task that waits for its sandbox.
      if hasElapsed now r.createdAt p.taskTimeout then
        finish n r.id .taskTimeout (deadlineMessage p r.status.phase)
      else advance p n r

end SandboxTasks.Reconcile
