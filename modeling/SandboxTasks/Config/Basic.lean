import SandboxTasks.Callback.Retry
import SandboxTasks.Reconcile.Policy
import SandboxTasks.Sweep
import SandboxTasks.Text.Blank

namespace SandboxTasks

namespace Config

structure Provisioning where
  windowSeconds : Nat
  pollSeconds : Nat
deriving DecidableEq, Repr

structure Running where
  pollSeconds : Nat
  timeoutSeconds : Nat
deriving DecidableEq, Repr

structure Assignment where
  maxAttempts : Nat
  initialBackoffSeconds : Nat
  maxBackoffSeconds : Nat
  requestTimeoutSeconds : Nat
  workerPort : Nat
deriving DecidableEq, Repr

structure Credentials where
  maxAttempts : Nat
  initialBackoffMillis : Nat
  apiBase : String
  requestTimeoutSeconds : Nat
deriving DecidableEq, Repr

structure Notify where
  maxAttempts : Nat
  initialBackoffSeconds : Nat
  timeoutSeconds : Nat
deriving DecidableEq, Repr

structure Sweeping where
  intervalSeconds : Nat
  orphanGraceSeconds : Nat
deriving DecidableEq, Repr

structure Retention where
  /-- Zero keeps ended tasks. -/
  minutes : Nat
deriving DecidableEq, Repr

end Config

structure Config where
  sandbox : Sandbox.Settings
  provisioning : Config.Provisioning
  running : Config.Running
  assignment : Config.Assignment
  credentials : Config.Credentials
  notify : Config.Notify
  sweeping : Config.Sweeping
  retention : Config.Retention
deriving DecidableEq, Repr

namespace Config

def default : Config where
  sandbox := ⟨"agent-worker", none, none, none⟩
  provisioning := ⟨300, 5⟩
  running := ⟨30, 3600⟩
  assignment := ⟨5, 2, 60, 10, 8888⟩
  credentials := ⟨3, 500, "https://api.github.com", 10⟩
  notify := ⟨3, 1, 10⟩
  sweeping := ⟨300, 600⟩
  retention := ⟨1440⟩

instance : Inhabited Config := ⟨default⟩

inductive Invalid where
  | zero (field : String)
  | backoff (max initial : Nat)
  | deadline (timeout window : Nat)
  | template
deriving DecidableEq, Repr

def Invalid.message : Invalid → String
  | .zero field => field ++ " must be greater than zero"
  | .backoff max initial => "assignment.maxBackoffSeconds (" ++ toString max ++
      ") must not be smaller than assignment.initialBackoffSeconds (" ++ toString initial ++ ")"
  | .deadline timeout window => "running.taskTimeoutSeconds (" ++ toString timeout ++
      ") must exceed provisioning.windowSeconds (" ++ toString window ++ ")"
  | .template => "sandbox.template must not be empty"

/-- The numbers that must not be zero, in the order they are looked at. -/
def positives (c : Config) : List (String × Nat) := [
  ("provisioning.windowSeconds", c.provisioning.windowSeconds),
  ("provisioning.pollIntervalSeconds", c.provisioning.pollSeconds),
  ("running.pollIntervalSeconds", c.running.pollSeconds),
  ("running.taskTimeoutSeconds", c.running.timeoutSeconds),
  ("assignment.maxAttempts", c.assignment.maxAttempts),
  ("assignment.initialBackoffSeconds", c.assignment.initialBackoffSeconds),
  ("assignment.requestTimeoutSeconds", c.assignment.requestTimeoutSeconds),
  ("assignment.workerPort", c.assignment.workerPort),
  ("credentials.maxAttempts", c.credentials.maxAttempts),
  ("credentials.requestTimeoutSeconds", c.credentials.requestTimeoutSeconds),
  ("notify.maxAttempts", c.notify.maxAttempts),
  ("notify.timeoutSeconds", c.notify.timeoutSeconds),
  ("sweep.intervalSeconds", c.sweeping.intervalSeconds)]

def invalid? (c : Config) : Option Invalid :=
  match c.positives.find? (·.2 == 0) with
  | some (field, _) => some (.zero field)
  | none =>
    if c.assignment.maxBackoffSeconds < c.assignment.initialBackoffSeconds then
      some (.backoff c.assignment.maxBackoffSeconds c.assignment.initialBackoffSeconds)
    else if c.running.timeoutSeconds ≤ c.provisioning.windowSeconds then
      some (.deadline c.running.timeoutSeconds c.provisioning.windowSeconds)
    else if Text.isBlankText c.sandbox.template then some .template
    else none

def policy (c : Config) (callbackApi : String) : Reconcile.Policy where
  provisioningWindow := .ofSeconds c.provisioning.windowSeconds
  provisioningPoll := .ofSeconds c.provisioning.pollSeconds
  runningPoll := .ofSeconds c.running.pollSeconds
  taskTimeout := .ofSeconds c.running.timeoutSeconds
  assignmentMaxAttempts := c.assignment.maxAttempts
  assignmentInitialBackoff := .ofSeconds c.assignment.initialBackoffSeconds
  assignmentMaxBackoff := .ofSeconds c.assignment.maxBackoffSeconds
  callbackApi := callbackApi

def retryPolicy (c : Config) : Callback.RetryPolicy where
  maxAttempts := c.notify.maxAttempts
  initialBackoff := .ofSeconds c.notify.initialBackoffSeconds
  requestTimeout := .ofSeconds c.notify.timeoutSeconds

def sweepSettings (c : Config) : Sweep.Settings where
  interval := .ofSeconds c.sweeping.intervalSeconds
  grace := .ofSeconds c.sweeping.orphanGraceSeconds
  retention := if 0 < c.retention.minutes then some (.ofSeconds (min (c.retention.minutes * 60) 18446744073709551615)) else none

end Config

end SandboxTasks
