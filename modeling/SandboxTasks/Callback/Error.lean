namespace SandboxTasks.Callback

inductive Error where
  | notConfigured (what : String)
  | rejected (status : Nat)
  | exhausted (attempts : Nat) (lastError : String)
deriving DecidableEq, Repr

def Error.message : Error → String
  | .notConfigured what => "Channel not configured: " ++ what
  | .rejected status => "Callback rejected with HTTP " ++ toString status
  | .exhausted attempts lastError =>
    "Delivery failed after " ++ toString attempts ++ " attempt(s): " ++ lastError

end SandboxTasks.Callback
