namespace SandboxTasks.Assignment

inductive Acceptance where
  | accepted
  | already
deriving DecidableEq, Repr

inductive Error where
  | refused (address : String)
  | transport (reason : String)
  | unexpected (status : Nat) (body : String)
deriving DecidableEq, Repr

def Error.message : Error → String
  | .refused address => "Connection refused by worker at " ++ address
  | .transport reason => "Transport error: " ++ reason
  | .unexpected status body => "Worker answered " ++ toString status ++ ": " ++ body

end SandboxTasks.Assignment
