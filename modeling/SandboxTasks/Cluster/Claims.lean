import SandboxTasks.Cluster.Client
import SandboxTasks.Sandbox.Claim
import SandboxTasks.Task.Id

namespace SandboxTasks.Cluster.Claims

open Sandbox

abbrev ClaimObject := Object ClaimSpec ClaimStatus

def decodeClaim (j : Json) : Except Fault ClaimObject := Object.decode ClaimSpec.decode ClaimStatus.decode j

def taskLabel : String := "agents.platform/task-id"

def spec (s : Settings) (r : Record) : ClaimSpec where
  template := r.spec.template.getD s.template
  image := s.image
  resources := if s.cpu.isSome || s.memory.isSome then some ⟨s.cpu, s.memory⟩ else none

def labels (r : Record) : Json := .object [
  (taskLabel, .string r.id),
  ("app.kubernetes.io/managed-by", .string "sandbox-controller")]

def owners (r : Record) (uid : String) : Json := .array [.object [
  ("apiVersion", .string Kind.task.apiVersion),
  ("kind", .string Kind.task.name),
  ("name", .string r.id),
  ("uid", .string uid),
  ("controller", .bool true),
  ("blockOwnerDeletion", .bool true)]]

def newObject (s : Settings) (r : Record) : Json :=
  Kind.claim.object [
    ("name", some (.string (TaskId.claimName r.id))),
    ("labels", some (labels r)),
    ("ownerReferences", r.uid.map (owners r))] (spec s r).encode

/-- Makes the task's claim; one that is there already is as good. -/
def provision (space : String) (s : Settings) (r : Record) : Routine (Except ProvisionError SandboxRef) := do
  let sandbox : SandboxRef := ⟨TaskId.claimName r.id, none⟩
  match ← request (.create (newObject s r)) (Target.collection? .claim space "") decodeClaim with
  | .ok _ => return .ok sandbox
  | .error (.refused code message reason) =>
    if code = 409 then return .ok sandbox
    else if code = 422 ∨ code = 400 then return .error (.rejected message)
    else return .error (.cluster (.refused code message reason))
  | .error e => return .error (.cluster e)

def poll (space : String) (sandbox : SandboxRef) : Routine (Except ProvisionError State) := do
  match orAbsent (← request .get (Target.object? .claim space sandbox.claim) decodeClaim) with
  | .ok none => return .ok .absent
  | .ok (some o) => return .ok (State.ofStatus o.status)
  | .error e => return .error (.cluster e)

def deletion : Json := .object [("propagationPolicy", .string "Background")]

def delete (space : String) (sandbox : SandboxRef) : Routine (Except ProvisionError Deletion) := do
  match ← request (.delete deletion) (Target.changed? .claim space sandbox.claim "") (decodeDeleted decodeClaim) with
  | .ok _ => return .ok .deleted
  | .error (.refused 404 _ _) => return .ok .absent
  | .error e => return .error (.cluster e)

def summary (o : ClaimObject) : ClaimSummary where
  sandbox := ⟨o.metadata.id, o.status.bind (·.address)⟩
  task := o.metadata.label? taskLabel
  createdAt := o.metadata.createdAt

def selection : String := "&labelSelector=agents.platform%2Ftask-id"

def list (space : String) : Routine (Except ProvisionError (List ClaimSummary)) := do
  match ← request .get (Target.collection? .claim space selection) (Object.decodeItems decodeClaim) with
  | .ok os => return .ok (os.map summary)
  | .error e => return .error (.cluster e)

end SandboxTasks.Cluster.Claims
