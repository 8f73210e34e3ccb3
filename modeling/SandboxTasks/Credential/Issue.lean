import SandboxTasks.Store.Modify

namespace SandboxTasks.Credential

def reserve (id : String) : Routine (Except CredentialError Repository) := do
  match ← Store.modify id Change.reserveCredential with
  | .error (.notFound id) => return .error (.unknownTask id)
  | .error e => return .error (.store e)
  | .ok modified =>
    let record := modified.task.record
    if modified.isApplied then return .ok record.spec.repository
    else if record.status.phase.isTerminal then return .error (.taskTerminal record.id record.status.phase)
    else return .error (.alreadyIssued record.id)

def release (id : String) : Routine Unit := do
  -- It may fail, and nobody is told: the mark is then left where it is.
  let _ ← Store.modify id Change.releaseCredential

def issue (configured : Bool) (id : String) : Routine (Except CredentialError Grant) := do
  if !configured then return .error .notConfigured
  match ← reserve id with
  | .error e => return .error e
  | .ok repository =>
    match ← ask (.exchange id repository) with
    | .ok grant => return .ok grant
    | .error e =>
      release id
      return .error (.exchange e)

/-- What is still done for a request that is dropped while it waits. -/
def abandoned : Operation → Routine Unit
  | .exchange id _ => release id
  | _ => return ()

end SandboxTasks.Credential
