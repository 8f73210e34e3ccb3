import SandboxTasks.Assignment.Outcome
import SandboxTasks.Http.Client
import SandboxTasks.Json.Printer

namespace SandboxTasks.Assignment

def body (id callbackApi : String) : Json := .object [
  ("taskID", .string id),
  ("callbackAPIAddress", .string callbackApi)]

def url (address : String) (port : Nat) : String := "http://" ++ address ++ ":" ++ toString port ++ "/task"

def outcome (address : String) : Except Http.Failure Http.Response → Except Error Acceptance
  | .error e => .error (if e.isRefused then .refused address else .transport e.message)
  | .ok response =>
    if response.status = 200 ∨ response.status = 202 then .ok .accepted
    else if response.status = 409 then .ok .already
    else .error (.unexpected response.status response.body)

def assign (port : Nat) (address id callbackApi : String) : Http.Routine (Except Error Acceptance) := do
  let result ← Http.post (url address port) [⟨"content-type", "application/json"⟩] (body id callbackApi).toText
  return outcome address result

end SandboxTasks.Assignment
