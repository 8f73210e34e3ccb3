import SandboxTasks.Store.Error
import SandboxTasks.Time.Instant

namespace SandboxTasks

structure Grant where
  credential : String
  expiresAt : Instant
deriving DecidableEq, Repr

inductive ExchangeError where
  | transient (reason : String)
  | rejected (status : Nat) (body : String)
  | signing (reason : String)
  | invalidRepository (url : String)
deriving DecidableEq, Repr

def ExchangeError.message : ExchangeError → String
  | .transient reason => "Transient upstream failure: " ++ reason
  | .rejected status body => "Upstream rejected exchange with " ++ toString status ++ ": " ++ body
  | .signing reason => "Failed to sign assertion: " ++ reason
  | .invalidRepository url => "Repository URL '" ++ url ++ "' does not name an owner and repository"

inductive CredentialError where
  | unknownTask (id : String)
  | alreadyIssued (id : String)
  | taskTerminal (id : String) (phase : Phase)
  | notConfigured
  | exchange (e : ExchangeError)
  | store (e : StoreError)
deriving DecidableEq, Repr

def CredentialError.message : CredentialError → String
  | .unknownTask id => "Task " ++ id ++ " not found"
  | .alreadyIssued id => "Credential already issued for task " ++ id
  | .taskTerminal id phase => "Task " ++ id ++ " is already " ++ phase.name
  | .notConfigured => "Credential exchange is not configured"
  | .exchange e => "Credential exchange failed: " ++ e.message
  | .store e => e.message

end SandboxTasks
