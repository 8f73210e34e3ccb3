import SandboxTasks.Task.Phase

namespace SandboxTasks

inductive ClusterError where
  | refused (code : Nat) (message reason : String)
  | unreadable
  | unnameable
deriving DecidableEq, Repr

def ClusterError.message : ClusterError → String
  | .refused _ message _ => message
  | .unreadable => "unreadable answer"
  | .unnameable => "invalid object name"

def ClusterError.report (e : ClusterError) : String := "Kubernetes API error: " ++ e.message

inductive StoreError where
  | notFound (id : String)
  | alreadyExists (id : String)
  | conflict (id : String)
  | illegalTransition (id : String) (current next : Phase)
  | malformed (id reason : String)
  | cluster (e : ClusterError)
deriving DecidableEq, Repr

def StoreError.message : StoreError → String
  | .notFound id => "Task " ++ id ++ " not found"
  | .alreadyExists id => "Task " ++ id ++ " already exists"
  | .conflict id => "Version conflict writing task " ++ id
  | .illegalTransition id current next =>
    "Illegal phase transition for task " ++ id ++ ": " ++ current.name ++ " -> " ++ next.name
  | .malformed id reason => "Malformed task record " ++ id ++ ": " ++ reason
  | .cluster e => e.report

end SandboxTasks
