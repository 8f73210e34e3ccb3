import SandboxTasks.Store.Error
import SandboxTasks.Task.Record

namespace SandboxTasks

namespace Sandbox

inductive State where
  | ready (address : String)
  | exited (reason : Option String)
  | unknown
  | absent
deriving DecidableEq, Repr

inductive Deletion where
  | deleted
  | absent
deriving DecidableEq, Repr

structure ClaimSummary where
  sandbox : SandboxRef
  task : Option String
  createdAt : Option Instant
deriving DecidableEq, Repr

structure Settings where
  template : String
  image : Option String
  cpu : Option String
  memory : Option String
deriving DecidableEq, Repr

end Sandbox

inductive ProvisionError where
  | rejected (message : String)
  | cluster (e : ClusterError)
deriving DecidableEq, Repr

def ProvisionError.message : ProvisionError → String
  | .rejected message => "Sandbox claim rejected: " ++ message
  | .cluster e => e.report

end SandboxTasks
