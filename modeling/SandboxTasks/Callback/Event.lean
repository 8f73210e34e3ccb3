import SandboxTasks.Json.Decode
import SandboxTasks.Json.Printer
import SandboxTasks.Task.Phase

namespace SandboxTasks.Callback

inductive Outcome where
  | completed
  | failed
  | timedOut
  | canceled
deriving DecidableEq, Repr

namespace Outcome

def name : Outcome → String
  | .completed => "Completed"
  | .failed => "Failed"
  | .timedOut => "TimedOut"
  | .canceled => "Canceled"

def all : List Outcome := [.completed, .failed, .timedOut, .canceled]

def ofName? (s : String) : Option Outcome := all.find? (·.name == s)

theorem ofName?_name (o : Outcome) : ofName? o.name = some o := by cases o <;> decide

/-- The outcome that a phase is told as; whatever did not end otherwise has failed. -/
def ofPhase : Phase → Outcome
  | .completed => .completed
  | .timedOut => .timedOut
  | .canceled => .canceled
  | _ => .failed

end Outcome

structure Payload where
  task : String
  outcome : Outcome
  reason : String
  pullRequest : Option String
  message : Option String
  completedAt : Instant
deriving DecidableEq, Repr

/-- A payload and the URL it goes to, which is no part of it. -/
structure Event where
  url : String
  payload : Payload
deriving DecidableEq, Repr

namespace Payload

open Json

def taskField := required "taskID" decodeString
def outcomeField := required "outcome" (decodeName Outcome.ofName?)
def reasonField := required "reason" decodeString
def pullRequestField := optional "prURL" decodeString
def messageField := optional "message" decodeString
def completedAtField := required "completedAt" decodeInstant

def decode (j : Json) : Except Fault Payload := do
  let s ← j.slots [taskField.form, outcomeField.form, reasonField.form, pullRequestField.form, messageField.form,
    completedAtField.form]
  return ⟨← taskField.read s, ← outcomeField.read s, ← reasonField.read s, ← pullRequestField.read s,
    ← messageField.read s, ← completedAtField.read s⟩

def encode (p : Payload) : Json := ofFields [
  ("taskID", some (.string p.task)),
  ("outcome", some (.string p.outcome.name)),
  ("reason", some (.string p.reason)),
  ("prURL", p.pullRequest.map .string),
  ("message", p.message.map .string),
  ("completedAt", some (instant p.completedAt))]

def body (p : Payload) : List Char := p.encode.print

end Payload

end SandboxTasks.Callback
