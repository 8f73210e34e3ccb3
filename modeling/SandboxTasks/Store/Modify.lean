import SandboxTasks.Operation
import SandboxTasks.Task.Change

namespace SandboxTasks.Store

def rounds : Nat := 5

inductive Modified where
  /-- Written; the task as it is now. -/
  | applied (task : Versioned)
  | unchanged (task : Versioned)
deriving DecidableEq, Repr

namespace Modified

def isApplied : Modified → Bool
  | .applied _ => true
  | .unchanged _ => false

def task : Modified → Versioned
  | .applied t => t
  | .unchanged t => t

end Modified

def modifyWithin : Nat → String → Change → Routine (Except StoreError Modified)
  | 0, id, _ => return .error (.conflict id)
  | rounds + 1, id, change => do
    match ← ask (.find id) with
    | .error e => return .error e
    | .ok none => return .error (.notFound id)
    | .ok (some current) =>
      let now ← ask .now
      match change now current.record with
      | none => return .ok (.unchanged current)
      | some next =>
        match ← ask (.swap id current.version next) with
        | .ok task => return .ok (.applied task)
        | .error (.conflict _) => modifyWithin rounds id change
        | .error e => return .error e

def modify (id : String) (change : Change) : Routine (Except StoreError Modified) := modifyWithin rounds id change

end SandboxTasks.Store
