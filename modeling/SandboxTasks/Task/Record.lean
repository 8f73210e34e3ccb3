import SandboxTasks.Task.Condition
import SandboxTasks.Task.Id
import SandboxTasks.Task.Phase
import SandboxTasks.Task.Repository

namespace SandboxTasks

structure TaskSpec where
  description : String
  context : Option String
  sourceReference : Option String
  repository : Repository
  callbackUrl : Option String
  template : Option String
deriving DecidableEq, Repr

structure SandboxRef where
  claim : String
  address : Option String
deriving DecidableEq, Repr

structure Status where
  phase : Phase
  reason : Option EndReason
  message : Option String
  conditions : List Condition
  sandbox : Option SandboxRef
  attempts : Nat
  assignmentError : Option String
  progress : Option String
  pullRequest : Option String
  provisioningSince : Option Instant
  readyAt : Option Instant
  assignedAt : Option Instant
  completedAt : Option Instant
deriving DecidableEq, Repr

namespace Status

def initial : Status := ⟨.pending, none, none, [], none, 0, none, none, none, none, none, none, none⟩

instance : Inhabited Status := ⟨initial⟩

def condition? (s : Status) (kind : Condition.Kind) : Option Condition := Condition.find? s.conditions kind

def has (s : Status) (kind : Condition.Kind) : Bool := (s.condition? kind).isSome

def setCondition (s : Status) (now : Instant) (kind : Condition.Kind) (holds : Bool) (reason : String)
    (message : Option String) : Status :=
  { s with conditions := Condition.set now kind holds reason message s.conditions }

def removeCondition (s : Status) (kind : Condition.Kind) : Status :=
  { s with conditions := Condition.remove kind s.conditions }

/-- Ends a task: phase, reason, message and time together. A task that has ended stays as it is. -/
def terminate? (s : Status) (now : Instant) (reason : EndReason) (message : Option String) : Option Status :=
  if s.phase.isTerminal then none
  else some { s with phase := reason.phase, reason := some reason, message, completedAt := some now }

end Status

structure Record where
  id : String
  uid : Option String
  spec : TaskSpec
  status : Status
  createdAt : Instant
deriving DecidableEq, Repr

structure Versioned where
  record : Record
  version : String
deriving DecidableEq, Repr

def Record.sandbox (r : Record) : SandboxRef := r.status.sandbox.getD ⟨TaskId.claimName r.id, none⟩

end SandboxTasks
