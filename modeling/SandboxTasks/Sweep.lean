import SandboxTasks.Reconcile.Policy

namespace SandboxTasks.Sweep

structure Settings where
  interval : Duration
  grace : Duration
  retention : Option Duration
deriving DecidableEq, Repr

structure Tally where
  claimsDeleted : Nat
  tasksDeleted : Nat
deriving DecidableEq, Repr

inductive Error where
  | store (e : StoreError)
  | provision (e : ProvisionError)
deriving DecidableEq, Repr

def Error.message : Error → String
  | .store e => "Task store error: " ++ e.message
  | .provision e => "Sandbox error: " ++ e.message

def isOld (grace : Duration) (now : Instant) (c : Sandbox.ClaimSummary) : Bool :=
  match c.createdAt with
  | none => true
  | some t => Reconcile.hasElapsed now t grace

/-- No task needs the claims of this one any more. -/
def isOrphaned (tasks : List Record) (id : String) : Bool :=
  match tasks.find? (·.id == id) with
  | none => true
  | some r => r.status.phase.isTerminal && r.status.has .sandboxDeleted

/-- The task ended long enough ago, and nothing is left to do for it. -/
def isExpired (retention : Duration) (now : Instant) (r : Record) : Bool :=
  r.status.phase.isTerminal && r.status.has .sandboxDeleted && r.status.has .notified &&
    match r.status.completedAt with
    | none => false
    | some t => Reconcile.hasElapsed now t retention

def sweepClaims (s : Settings) (tasks : List Record) : List Sandbox.ClaimSummary → Routine Nat
  | [] => return 0
  | c :: cs => do
    match c.task with
    | none => sweepClaims s tasks cs
    | some id =>
      let now ← ask .now
      if isOld s.grace now c && isOrphaned tasks id then
        match ← ask (.deleteClaim c.sandbox) with
        | .ok _ => return (← sweepClaims s tasks cs) + 1
        | .error _ => sweepClaims s tasks cs
      else sweepClaims s tasks cs

def sweepTasks (retention : Duration) : List Record → Routine (Except StoreError Nat)
  | [] => return .ok 0
  | r :: rs => do
    let now ← ask .now
    if isExpired retention now r then
      match ← ask (.erase r.id) with
      | .error e => return .error e
      | .ok erased => return (← sweepTasks retention rs).map (· + if erased then 1 else 0)
    else sweepTasks retention rs

def once (s : Settings) : Routine (Except Error Tally) := do
  match ← ask .list with
  | .error e => return .error (.store e)
  | .ok tasks =>
    -- All that follows goes by this one listing; no task is looked at again.
    let tasks := tasks.map (·.record)
    match ← ask .claims with
    | .error e => return .error (.provision e)
    | .ok claims =>
      let claimsDeleted ← sweepClaims s tasks claims
      match s.retention with
      | none => return .ok ⟨claimsDeleted, 0⟩
      | some retention =>
        match ← sweepTasks retention tasks with
        | .error e => return .error (.store e)
        | .ok tasksDeleted => return .ok ⟨claimsDeleted, tasksDeleted⟩

def repeatedly (s : Settings) : Nat → Routine Unit
  | 0 => return ()
  | sweeps + 1 => do
    let _ ← once s
    ask (.sleep s.interval)
    repeatedly s sweeps

end SandboxTasks.Sweep
