import SandboxTasks.Callback.Error
import SandboxTasks.Callback.Event
import SandboxTasks.Callback.Notifier
import SandboxTasks.Callback.Retry
import SandboxTasks.Callback.Signature
import SandboxTasks.Http.Client
import SandboxTasks.Http.Status

namespace SandboxTasks.Callback

/-- A channel without a secret is disabled. -/
structure Poster where
  secret : Option (List UInt8)
  policy : RetryPolicy

namespace Poster

def name : String := "callback"

def ofSetting (secret : Option String) (policy : RetryPolicy) : Poster :=
  ⟨(secret.filter (!·.isEmpty)).map (·.toUTF8.toList), policy⟩

def isEnabled (p : Poster) : Bool := p.secret.isSome

inductive Attempt where
  | delivered
  | refused (status : Nat)
  | failed (reason : String)
deriving DecidableEq, Repr

/-- A client error, unless time was short or there were too many requests. -/
def isPermanent (status : Nat) : Bool := Http.Status.isClientError status && status != 408 && status != 429

def Attempt.ofResult : Except Http.Failure Http.Response → Attempt
  | .error e => .failed e.message
  | .ok response =>
    if Http.Status.isSuccess response.status then .delivered
    else if isPermanent response.status then .refused response.status
    else .failed ("HTTP " ++ Http.Status.text response.status)

def headers (task signature : String) : List Http.Header :=
  [⟨"content-type", "application/json"⟩, ⟨Signature.header, signature⟩, ⟨"x-task-id", task⟩]

def attempt (url task signature body : String) : Http.Routine Attempt := do
  return Attempt.ofResult (← Http.post url (headers task signature) body)

/-- Makes attempts until one settles the matter. `left` more may follow this one, which is number `made + 1`. -/
def attempts (policy : RetryPolicy) (once : Http.Routine Attempt) : Nat → Nat → Http.Routine (Except Error Unit)
  | left, made => do
    match ← once with
    | .delivered => return .ok ()
    | .refused status => return .error (.rejected status)
    | .failed reason =>
      match left with
      | 0 => return .error (.exhausted (made + 1) reason)
      | left + 1 =>
        Http.ask (.sleep (policy.delayAfter (made + 1)))
        attempts policy once left (made + 1)

def send (p : Poster) (event : Event) : Http.Routine (Except Error Unit) :=
  match p.secret with
  | none => return .error (.notConfigured "CALLBACK_SIGNING_SECRET not set")
  | some secret =>
    let body := String.ofList event.payload.body
    let signature := String.ofList (Signature.sign secret body.toUTF8.toList)
    attempts p.policy (attempt event.url event.payload.task signature body) (p.policy.maxAttempts - 1) 0

end Poster

/-- The notifier of a deployment: off where it is switched off, else with the one channel that has a secret. -/
def Notifier.ofSettings (disabled : Option String) (poster : Poster) : Notifier :=
  if disabled.any fun v => v = "1" || v.map Char.toLower = "true" then .off
  else if poster.isEnabled then .ofChannels [⟨Poster.name, true⟩] else .ofChannels []

end SandboxTasks.Callback
