import SandboxTasks.Json.Decode
import SandboxTasks.Sandbox.State

namespace SandboxTasks.Sandbox

open Json

structure Resources where
  cpu : Option String
  memory : Option String
deriving DecidableEq, Repr

structure ClaimSpec where
  template : String
  image : Option String
  resources : Option Resources
deriving DecidableEq, Repr

structure ClaimCondition where
  kind : String
  status : String
  reason : Option String
  message : Option String
  since : Option Instant
deriving DecidableEq, Repr

structure ClaimStatus where
  address : Option String
  conditions : List ClaimCondition
deriving DecidableEq, Repr

def ClaimStatus.empty : ClaimStatus := ⟨none, []⟩

/-- What a claim's status says of its sandbox. Ready without an address is no word yet. -/
def State.ofStatus (status : Option ClaimStatus) : State :=
  match status with
  | none => .unknown
  | some s =>
    match s.conditions.find? (·.kind == "Ready") with
    | none => .unknown
    | some c =>
      if c.status = "True" then
        match s.address.filter (· != "") with
        | some address => .ready address
        | none => .unknown
      else if c.status = "False" then .exited c.reason
      else .unknown

namespace Resources

def cpuField := optional "cpu" decodeString
def memoryField := optional "memory" decodeString

def decode (j : Json) : Except Fault Resources := do
  let s ← j.slots [cpuField.form, memoryField.form]
  return ⟨← cpuField.read s, ← memoryField.read s⟩

def encode (r : Resources) : Json := ofFields [("cpu", r.cpu.map .string), ("memory", r.memory.map .string)]

end Resources

namespace ClaimSpec

def templateNameField := required "name" decodeString

def decodeTemplate (j : Json) : Except Fault String := do templateNameField.read (← j.slots [templateNameField.form])

def templateField := required "sandboxTemplateRef" decodeTemplate
def imageField := optional "image" decodeString
def resourcesField := optional "resources" Resources.decode

def decode (j : Json) : Except Fault ClaimSpec := do
  let s ← j.slots [templateField.form, imageField.form, resourcesField.form]
  return ⟨← templateField.read s, ← imageField.read s, ← resourcesField.read s⟩

def encode (c : ClaimSpec) : Json := ofFields [
  ("sandboxTemplateRef", some (ofFields [("name", some (.string c.template))])),
  ("image", c.image.map .string),
  ("resources", c.resources.map Resources.encode)]

end ClaimSpec

namespace ClaimCondition

def kindField := required "type" decodeString
def statusField := required "status" decodeString
def reasonField := optional "reason" decodeString
def messageField := optional "message" decodeString
def sinceField := optional "lastTransitionTime" decodeInstant

def decode (j : Json) : Except Fault ClaimCondition := do
  let s ← j.slots [kindField.form, statusField.form, reasonField.form, messageField.form, sinceField.form]
  return ⟨← kindField.read s, ← statusField.read s, ← reasonField.read s, ← messageField.read s, ← sinceField.read s⟩

def encode (c : ClaimCondition) : Json := ofFields [
  ("type", some (.string c.kind)),
  ("status", some (.string c.status)),
  ("reason", c.reason.map .string),
  ("message", c.message.map .string),
  ("lastTransitionTime", c.since.map instant)]

end ClaimCondition

namespace ClaimStatus

def addressField := optional "serviceFQDN" decodeString
def conditionsField := withDefault "conditions" [] (decodeList ClaimCondition.decode)

def decode (j : Json) : Except Fault ClaimStatus := do
  let s ← j.slots [addressField.form, conditionsField.form]
  return ⟨← addressField.read s, ← conditionsField.read s⟩

def encode (c : ClaimStatus) : Json := ofFields [
  ("serviceFQDN", c.address.map .string),
  ("conditions", some (.array (c.conditions.map ClaimCondition.encode)))]

end ClaimStatus

end SandboxTasks.Sandbox
