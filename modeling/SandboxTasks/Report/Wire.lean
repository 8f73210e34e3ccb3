import SandboxTasks.Json.Decode
import SandboxTasks.Report.Event

namespace SandboxTasks.Report

open Json

def depthLimit : Nat := 127

def kindField := required "event" (decodeName Kind.ofName?)
def messageField := optional "message" decodeString
def detailsField := optional "details" (decodeAny (depthLimit - 1))

def decode (j : Json) : Except Fault Report := do
  let s ← j.slots [kindField.form, messageField.form, detailsField.form]
  return ⟨← kindField.read s, ← messageField.read s, ← detailsField.read s⟩

def encode (r : Report) : Json := ofFields [
  ("event", some (.string r.kind.name)),
  ("message", r.message.map .string),
  ("details", r.details)]

end SandboxTasks.Report
