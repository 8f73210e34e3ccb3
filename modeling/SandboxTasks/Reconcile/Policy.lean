import SandboxTasks.Store.Modify

namespace SandboxTasks.Reconcile

structure Policy where
  provisioningWindow : Duration
  provisioningPoll : Duration
  runningPoll : Duration
  taskTimeout : Duration
  assignmentMaxAttempts : Nat
  assignmentInitialBackoff : Duration
  assignmentMaxBackoff : Duration
  callbackApi : String
deriving DecidableEq, Repr

def powerOfTwo (exponent : Nat) : Nat := if exponent < 32 then Nat.pow 2 exponent else 4294967295

/-- The wait after so many failed assignments: it doubles from one to the next, up to a limit. -/
def Policy.assignmentBackoff (p : Policy) (attempts : Nat) : Duration :=
  (p.assignmentInitialBackoff.scale (powerOfTwo (attempts - 1))).shorter p.assignmentMaxBackoff

def hasElapsed (now t : Instant) (length : Duration) : Bool := length ≤ now.elapsed t

def Policy.remaining (p : Policy) (now : Instant) (r : Record) : Duration :=
  p.taskTimeout.minus (now.elapsed r.createdAt)

/-- Refused connections are forgiven: the sandbox was ready, or was asked for, less than a window ago. -/
def Policy.forgives (p : Policy) (now : Instant) (s : Status) : Bool :=
  match s.readyAt.orElse fun _ => s.provisioningSince with
  | none => false
  | some t => !hasElapsed now t p.provisioningWindow

inductive Error where
  | store (e : StoreError)
  | provision (e : ProvisionError)
deriving DecidableEq, Repr

def Error.message : Error → String
  | .store e => e.message
  | .provision e => e.message

inductive Outcome where
  | requeue (after : Duration)
  | done
deriving DecidableEq, Repr

abbrev Step (α : Type) := ExceptT Error Routine α

def wait (op : Operation) : Step op.Answer := ExceptT.lift (ask op)

def ofStore {α : Type} (p : Routine (Except StoreError α)) : Step α :=
  ExceptT.mk do return (← p).mapError .store

def ofSandbox {α : Type} (p : Routine (Except ProvisionError α)) : Step α :=
  ExceptT.mk do return (← p).mapError .provision

def modify (id : String) (change : Change) : Step Store.Modified := ofStore (Store.modify id change)

/-- Looks again after a while, but no later than the task's deadline. -/
def requeue (p : Policy) (r : Record) (after : Duration) : Step Outcome := do
  let now ← wait .now
  return .requeue (after.shorter (p.remaining now r))

end SandboxTasks.Reconcile
