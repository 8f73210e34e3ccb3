import SandboxTasks.Store.Modify

namespace SandboxTasks.Report

inductive Verdict where
  | accepted (phase : Phase) (changed : Bool)
  | unknownTask
  | alreadyTerminal (phase : Phase)
deriving DecidableEq, Repr

def apply (id : String) (report : Report) : Routine (Except StoreError Verdict) := do
  match ← Store.modify id (Change.report report) with
  | .error (.notFound _) => return .ok .unknownTask
  | .error e => return .error e
  | .ok modified =>
    let phase := modified.task.record.status.phase
    if modified.isApplied then return .ok (.accepted phase true)
    else if phase.isTerminal && !report.kind.isTerminal then return .ok (.alreadyTerminal phase)
    else return .ok (.accepted phase false)

end SandboxTasks.Report
