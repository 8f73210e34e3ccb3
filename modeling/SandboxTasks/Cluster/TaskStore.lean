import SandboxTasks.Cluster.Client
import SandboxTasks.Json.MergePatch
import SandboxTasks.Store.Memory
import SandboxTasks.Task.Wire

namespace SandboxTasks.Cluster.TaskStore

abbrev TaskObject := Object TaskSpec Status

def decodeTask (j : Json) : Except Fault TaskObject := Object.decode TaskSpec.decode Status.decode j

/-- The task that an object holds; one without a creation time counts as created now. -/
def ofObject (o : TaskObject) : Routine (Except StoreError Versioned) := do
  let id := o.metadata.id
  match o.metadata.version with
  | none => return .error (.malformed id "missing resourceVersion")
  | some version =>
    let createdAt ← match o.metadata.createdAt with
      | some t => pure t
      | none => ask .now
    return .ok ⟨⟨id, o.metadata.uid, o.spec, o.status.getD .initial, createdAt⟩, version⟩

def ofObjects : List TaskObject → Routine (Except StoreError (List Versioned))
  | [] => return .ok []
  | o :: os => do
    match ← ofObject o with
    | .error e => return .error e
    | .ok task => return (← ofObjects os).map (task :: ·)

def newObject (id : String) (spec : TaskSpec) : Json := Kind.task.object [("name", some (.string id))] spec.encode

def create (space id : String) (spec : TaskSpec) : Routine (Except StoreError Versioned) := do
  match ← request (.create (newObject id spec)) (Target.collection? .task space "") decodeTask with
  | .ok o => ofObject o
  | .error (.refused 409 _ _) => return .error (.alreadyExists id)
  | .error e => return .error (.cluster e)

def find (space id : String) : Routine (Except StoreError (Option Versioned)) := do
  match orAbsent (← request .get (Target.object? .task space id) decodeTask) with
  | .ok none => return .ok none
  | .ok (some o) => return (← ofObject o).map some
  | .error e => return .error (.cluster e)

def objects (space : String) : Routine (Except ClusterError (List TaskObject)) :=
  request .get (Target.collection? .task space "") (Object.decodeItems decodeTask)

def list (space : String) : Routine (Except StoreError (List Versioned)) := do
  match ← objects space with
  | .ok os => ofObjects os
  | .error e => return .error (.cluster e)

/-- The patch from one status to another, for the version that the first was read at. -/
def statusPatch (version : String) (current next : Status) : Json := .object [
  ("metadata", .object [("resourceVersion", .string version)]),
  ("status", Json.mergePatch current.encode next.encode)]

def patchStatus (space id version : String) (current next : Status) : Routine (Except StoreError Versioned) := do
  match ← request (.merge (statusPatch version current next)) (Target.changed? .task space id "/status") decodeTask with
  | .ok o => ofObject o
  | .error (.refused 409 _ _) => return .error (.conflict id)
  | .error (.refused 404 _ _) => return .error (.notFound id)
  | .error e => return .error (.cluster e)

def swap (space id version : String) (status : Status) : Routine (Except StoreError Versioned) := do
  match ← find space id with
  | .error e => return .error e
  | .ok none => return .error (.notFound id)
  | .ok (some current) =>
    if current.version ≠ version then return .error (.conflict id)
    else if current.record.status.mayBecome status then patchStatus space id version current.record.status status
    else return .error (.illegalTransition id current.record.status.phase status.phase)

def erase (space id : String) : Routine (Except StoreError Bool) := do
  match ← request (.delete (.object [])) (Target.changed? .task space id "") (decodeDeleted decodeTask) with
  | .ok _ => return .ok true
  | .error (.refused 404 _ _) => return .ok false
  | .error e => return .error (.cluster e)

end SandboxTasks.Cluster.TaskStore
