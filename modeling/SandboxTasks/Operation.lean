import SandboxTasks.Assignment.Outcome
import SandboxTasks.Callback.Error
import SandboxTasks.Callback.Event
import SandboxTasks.Credential.Grant
import SandboxTasks.Program
import SandboxTasks.Sandbox.State

namespace SandboxTasks

inductive Operation where
  | now
  | entropy
  | find (id : String)
  | list
  | create (id : String) (spec : TaskSpec)
  | swap (id version : String) (status : Status)
  | erase (id : String)
  | provision (record : Record)
  | poll (sandbox : SandboxRef)
  | deleteClaim (sandbox : SandboxRef)
  | claims
  | assign (address id callbackApi : String)
  | exchange (id : String) (repository : Repository)
  | send (place : Nat) (channel : String) (event : Callback.Event)
  | sleep (length : Duration)

abbrev Operation.Answer : Operation → Type
  | .now => Instant
  | .entropy => Nat
  | .find _ => Except StoreError (Option Versioned)
  | .list => Except StoreError (List Versioned)
  | .create _ _ => Except StoreError Versioned
  | .swap _ _ _ => Except StoreError Versioned
  | .erase _ => Except StoreError Bool
  | .provision _ => Except ProvisionError SandboxRef
  | .poll _ => Except ProvisionError Sandbox.State
  | .deleteClaim _ => Except ProvisionError Sandbox.Deletion
  | .claims => Except ProvisionError (List Sandbox.ClaimSummary)
  | .assign _ _ _ => Except Assignment.Error Assignment.Acceptance
  | .exchange _ _ => Except ExchangeError Grant
  | .send _ _ _ => Except Callback.Error Unit
  | .sleep _ => Unit

abbrev Routine (α : Type) := Program Operation Operation.Answer α

def ask (op : Operation) : Routine op.Answer := Program.ask op

theorem run_ask {σ : Type} {answer : (op : Operation) → σ → op.Answer × σ} (op : Operation) (s : σ) :
    (ask op).run answer s = answer op s := rfl

end SandboxTasks
