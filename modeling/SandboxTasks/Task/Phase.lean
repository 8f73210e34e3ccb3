namespace SandboxTasks

inductive Phase where
  | pending
  | provisioning
  | ready
  | assigning
  | running
  | completed
  | failed
  | timedOut
  | canceled
deriving DecidableEq, Repr, Inhabited

namespace Phase

def rank : Phase → Nat
  | .pending => 0
  | .provisioning => 1
  | .ready => 2
  | .assigning => 3
  | .running => 4
  | .completed | .failed | .timedOut | .canceled => 5

def isTerminal : Phase → Bool
  | .completed | .failed | .timedOut | .canceled => true
  | _ => false

def precedes (p q : Phase) : Bool := !p.isTerminal && p.rank < q.rank

def name : Phase → String
  | .pending => "Pending"
  | .provisioning => "Provisioning"
  | .ready => "Ready"
  | .assigning => "Assigning"
  | .running => "Running"
  | .completed => "Completed"
  | .failed => "Failed"
  | .timedOut => "TimedOut"
  | .canceled => "Canceled"

def all : List Phase := [.pending, .provisioning, .ready, .assigning, .running, .completed, .failed, .timedOut, .canceled]

def ofName? (s : String) : Option Phase := all.find? (·.name == s)

theorem ofName?_name (p : Phase) : ofName? p.name = some p := by cases p <;> decide

theorem isTerminal_iff_rank {p : Phase} : p.isTerminal = true ↔ p.rank = 5 := by cases p <;> decide

end Phase

inductive EndReason where
  | completed
  | workerReportedFailure
  | provisioningTimeout
  | assignmentFailure
  | runnerExitedWithoutStatus
  | taskTimeout
  | canceled
deriving DecidableEq, Repr

namespace EndReason

def phase : EndReason → Phase
  | .completed => .completed
  | .workerReportedFailure | .assignmentFailure | .runnerExitedWithoutStatus => .failed
  | .provisioningTimeout | .taskTimeout => .timedOut
  | .canceled => .canceled

def name : EndReason → String
  | .completed => "Completed"
  | .workerReportedFailure => "WorkerReportedFailure"
  | .provisioningTimeout => "ProvisioningTimeout"
  | .assignmentFailure => "AssignmentFailure"
  | .runnerExitedWithoutStatus => "RunnerExitedWithoutStatus"
  | .taskTimeout => "TaskTimeout"
  | .canceled => "Canceled"

def all : List EndReason := [.completed, .workerReportedFailure, .provisioningTimeout, .assignmentFailure,
  .runnerExitedWithoutStatus, .taskTimeout, .canceled]

def ofName? (s : String) : Option EndReason := all.find? (·.name == s)

theorem ofName?_name (r : EndReason) : ofName? r.name = some r := by cases r <;> decide

theorem isTerminal_phase (r : EndReason) : r.phase.isTerminal = true := by cases r <;> rfl

end EndReason

end SandboxTasks
