import SandboxTasks.Json.Decode
import SandboxTasks.Task.Record

namespace SandboxTasks

open Json

namespace Repository

def urlField := required "url" decodeString
def revisionField := withDefault "ref" "main" decodeString

def decode (j : Json) : Except Fault Repository := do
  let s ← j.slots [urlField.form, revisionField.form]
  return ⟨← urlField.read s, ← revisionField.read s⟩

def encode (r : Repository) : Json := ofFields [("url", some (.string r.url)), ("ref", some (.string r.revision))]

end Repository

namespace TaskSpec

def descriptionField := required "description" decodeString
def contextField := optional "context" decodeString
def sourceReferenceField := optional "sourceReference" decodeString
def repositoryField := required "repository" Repository.decode
def callbackUrlField := optional "callbackUrl" decodeString
def templateField := optional "sandboxTemplate" decodeString

def decode (j : Json) : Except Fault TaskSpec := do
  let s ← j.slots [descriptionField.form, contextField.form, sourceReferenceField.form, repositoryField.form,
    callbackUrlField.form, templateField.form]
  return ⟨← descriptionField.read s, ← contextField.read s, ← sourceReferenceField.read s, ← repositoryField.read s,
    ← callbackUrlField.read s, ← templateField.read s⟩

def encode (t : TaskSpec) : Json := ofFields [
  ("description", some (.string t.description)),
  ("context", t.context.map .string),
  ("sourceReference", t.sourceReference.map .string),
  ("repository", some t.repository.encode),
  ("callbackUrl", t.callbackUrl.map .string),
  ("sandboxTemplate", t.template.map .string)]

end TaskSpec

namespace Condition

def kindField := required "type" (decodeName Kind.ofName?)
def holdsField := required "status" decodeBool
def reasonField := required "reason" decodeString
def messageField := optional "message" decodeString
def sinceField := required "lastTransitionTime" decodeInstant

def decode (j : Json) : Except Fault Condition := do
  let s ← j.slots [kindField.form, holdsField.form, reasonField.form, messageField.form, sinceField.form]
  return ⟨← kindField.read s, ← holdsField.read s, ← reasonField.read s, ← messageField.read s, ← sinceField.read s⟩

def encode (c : Condition) : Json := ofFields [
  ("type", some (.string c.kind.name)),
  ("status", some (.bool c.holds)),
  ("reason", some (.string c.reason)),
  ("message", c.message.map .string),
  ("lastTransitionTime", some (instant c.since))]

end Condition

namespace SandboxRef

def claimField := required "claimName" decodeString
def addressField := optional "address" decodeString

def decode (j : Json) : Except Fault SandboxRef := do
  let s ← j.slots [claimField.form, addressField.form]
  return ⟨← claimField.read s, ← addressField.read s⟩

def encode (b : SandboxRef) : Json := ofFields [("claimName", some (.string b.claim)), ("address", b.address.map .string)]

end SandboxRef

namespace Status

def phaseField := withDefault "phase" Phase.pending (decodeName Phase.ofName?)
def reasonField := optional "reason" (decodeName EndReason.ofName?)
def messageField := optional "message" decodeString
def conditionsField := withDefault "conditions" [] (decodeList Condition.decode)
def sandboxField := optional "sandbox" SandboxRef.decode
def attemptsField := withDefault "assignmentAttempts" 0 (decodeNat 4294967296)
def assignmentErrorField := optional "lastAssignmentError" decodeString
def progressField := optional "lastProgress" decodeString
def pullRequestField := optional "pullRequestUrl" decodeString
def provisioningSinceField := optional "provisioningStartedAt" decodeInstant
def readyAtField := optional "readyAt" decodeInstant
def assignedAtField := optional "assignedAt" decodeInstant
def completedAtField := optional "completedAt" decodeInstant

def forms : List (Field.Form Json) := [phaseField.form, reasonField.form, messageField.form, conditionsField.form,
  sandboxField.form, attemptsField.form, assignmentErrorField.form, progressField.form, pullRequestField.form,
  provisioningSinceField.form, readyAtField.form, assignedAtField.form, completedAtField.form]

def decode (j : Json) : Except Fault Status := do
  let s ← j.slots forms
  return {
    phase := ← phaseField.read s
    reason := ← reasonField.read s
    message := ← messageField.read s
    conditions := ← conditionsField.read s
    sandbox := ← sandboxField.read s
    attempts := ← attemptsField.read s
    assignmentError := ← assignmentErrorField.read s
    progress := ← progressField.read s
    pullRequest := ← pullRequestField.read s
    provisioningSince := ← provisioningSinceField.read s
    readyAt := ← readyAtField.read s
    assignedAt := ← assignedAtField.read s
    completedAt := ← completedAtField.read s }

def encode (s : Status) : Json := ofFields [
  ("phase", some (.string s.phase.name)),
  ("reason", s.reason.map fun r => .string r.name),
  ("message", s.message.map .string),
  ("conditions", some (.array (s.conditions.map Condition.encode))),
  ("sandbox", s.sandbox.map SandboxRef.encode),
  ("assignmentAttempts", some (.nat s.attempts)),
  ("lastAssignmentError", s.assignmentError.map .string),
  ("lastProgress", s.progress.map .string),
  ("pullRequestUrl", s.pullRequest.map .string),
  ("provisioningStartedAt", s.provisioningSince.map instant),
  ("readyAt", s.readyAt.map instant),
  ("assignedAt", s.assignedAt.map instant),
  ("completedAt", s.completedAt.map instant)]

end Status

end SandboxTasks
