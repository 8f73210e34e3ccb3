import SandboxTasks.Operation

namespace SandboxTasks.Callback

structure Channel where
  name : String
  enabled : Bool
deriving DecidableEq, Repr

structure Notifier where
  channels : List Channel
  disabled : Bool
deriving DecidableEq, Repr

inductive Delivery where
  | sent
  | failed (message : String)
deriving DecidableEq, Repr

namespace Notifier

def off : Notifier := ⟨[], true⟩

def ofChannels (channels : List Channel) : Notifier := ⟨channels, false⟩

def hasChannels (n : Notifier) : Bool := !n.disabled && !n.channels.isEmpty

/-- The first failure among the enabled channels, after all have been sent the event. The list starts at `place`. -/
def sendAll (event : Event) : Nat → List Channel → Routine (Option String)
  | _, [] => return none
  | place, c :: cs => do
    if c.enabled then
      match ← ask (.send place c.name event) with
      | .ok () => sendAll event (place + 1) cs
      | .error e =>
        let _ ← sendAll event (place + 1) cs
        return some (c.name ++ ": " ++ e.message)
    else sendAll event (place + 1) cs

def deliver (n : Notifier) (event : Event) : Routine Delivery := do
  if !n.hasChannels then return .failed "no notification channel configured"
  match ← sendAll event 0 n.channels with
  | none => return .sent
  | some message => return .failed message

end Notifier

end SandboxTasks.Callback
