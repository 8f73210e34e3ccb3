import SandboxTasks.Time.Instant

namespace SandboxTasks

namespace Condition

inductive Kind where
  | tokenIssued
  | notified
  | sandboxReady
  | sandboxDeleted
deriving DecidableEq, Repr

def Kind.name : Kind → String
  | .tokenIssued => "TokenIssued"
  | .notified => "Notified"
  | .sandboxReady => "SandboxReady"
  | .sandboxDeleted => "SandboxDeleted"

def Kind.all : List Kind := [.tokenIssued, .notified, .sandboxReady, .sandboxDeleted]

def Kind.ofName? (s : String) : Option Kind := all.find? (·.name == s)

theorem Kind.ofName?_name (k : Kind) : ofName? k.name = some k := by cases k <;> decide

end Condition

structure Condition where
  kind : Condition.Kind
  holds : Bool
  reason : String
  message : Option String
  since : Instant
deriving DecidableEq, Repr

namespace Condition

def find? (cs : List Condition) (kind : Kind) : Option Condition := List.find? (·.kind == kind) cs

/-- Records a condition in the place of the one of its kind, or behind the others. -/
def set (now : Instant) (kind : Kind) (holds : Bool) (reason : String) (message : Option String) :
    List Condition → List Condition
  | [] => [⟨kind, holds, reason, message, now⟩]
  | c :: cs =>
    if c.kind = kind then ⟨kind, holds, reason, message, if c.holds = holds then c.since else now⟩ :: cs
    else c :: set now kind holds reason message cs

def remove (kind : Kind) (cs : List Condition) : List Condition := cs.filter (·.kind != kind)

end Condition

end SandboxTasks
