import SandboxTasks.Cluster.Object
import SandboxTasks.Json.Patch

namespace SandboxTasks.Cluster.Finalizer

inductive Duty where
  | register
  | work
  /-- To clean up and take its name off, which stands at a place in the list. -/
  | release (place : Nat)
  | nothing
deriving DecidableEq, Repr

def duty (name : String) (m : Metadata) : Duty :=
  match m.finalizers.idxOf? name, m.deletedAt with
  | none, none => .register
  | some _, none => .work
  | some place, some _ => .release place
  | none, some _ => .nothing

def place : Json.Pointer := ["metadata", "finalizers"]

def registration (name : String) (others : List String) : Json.Patch :=
  if others.isEmpty then [.test place .null, .add ["metadata"] "finalizers" (.array [.string name])]
  else [.test place (.array (others.map .string)), .add place "-" (.string name)]

def withdrawal (name : String) (index : Nat) : Json.Patch :=
  [.test (place ++ [toString index]) (.string name), .remove place (toString index)]

end SandboxTasks.Cluster.Finalizer
