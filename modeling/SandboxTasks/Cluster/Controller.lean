import SandboxTasks.Cluster.Deployment
import SandboxTasks.Cluster.Finalizer
import SandboxTasks.Reconcile.Pass

namespace SandboxTasks.Cluster.Controller

open Reconcile (Policy Outcome)

open TaskStore (TaskObject)

def finalizer : String := "agents.platform/sandbox-cleanup"

inductive Error where
  | unnamed
  | cluster (e : ClusterError)
  | task (e : Reconcile.Error)
deriving DecidableEq, Repr

abbrev Step (α : Type) := ExceptT Error Routine α

/-- No task is looked at more often than this. -/
def shortestWait : Duration := .ofMillis 500

def unhurried : Outcome → Outcome
  | .requeue after => .requeue (after.longer shortestWait)
  | .done => .done

def reconcile {α : Type} (d : Deployment) (step : Reconcile.Step α) : Step α :=
  ExceptT.mk do return (← d.carryOut step.run).mapError .task

def amend (d : Deployment) (o : TaskObject) (patch : Json.Patch) : Step Unit := do
  match o.metadata.name with
  | none => throw .unnamed
  | some name =>
    match ← ExceptT.lift (request (.amend patch) (Target.changed? .task d.space name "") TaskStore.decodeTask) with
    | .ok _ => return ()
    | .error e => throw (.cluster e)

/-- Releases the sandbox of a task that is to go. -/
def cleanUp (d : Deployment) (o : TaskObject) : Step Unit := do
  match ← ExceptT.lift (TaskStore.ofObject o) with
  | .error e => throw (.task (.store e))
  | .ok task => reconcile d (Reconcile.releaseSandbox task.record)

def attend (d : Deployment) (p : Policy) (n : Callback.Notifier) (o : TaskObject) : Step Outcome := do
  match Finalizer.duty finalizer o.metadata with
  | .register =>
    amend d o (Finalizer.registration finalizer o.metadata.finalizers)
    return .done
  | .work => return unhurried (← reconcile d (Reconcile.pass p n o.metadata.id))
  | .release place =>
    if o.metadata.name.isNone then throw .unnamed
    cleanUp d o
    amend d o (Finalizer.withdrawal finalizer place)
    return .done
  | .nothing => return .done

/-- Attends to one task after the other; an error ends nothing but its own task's turn. -/
def attendAll (d : Deployment) (p : Policy) (n : Callback.Notifier) : List TaskObject → Routine Unit
  | [] => return ()
  | o :: os => do
    let _ ← (attend d p n o).run
    attendAll d p n os

/-- Starts work: counts the tasks, which may fail, then lists them and gives each its first turn. -/
def start (d : Deployment) (p : Policy) (n : Callback.Notifier) : Routine Unit := do
  let _ ← TaskStore.objects d.space
  match ← TaskStore.objects d.space with
  | .ok os => attendAll d p n os
  | .error _ => return ()

end SandboxTasks.Cluster.Controller
