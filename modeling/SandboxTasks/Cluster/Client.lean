import SandboxTasks.Cluster.Object
import SandboxTasks.Cluster.Request
import SandboxTasks.Http.Status
import SandboxTasks.Operation
import SandboxTasks.Text.Quoted

namespace SandboxTasks.Cluster

open Json

inductive Operation where
  | send (request : Request)
  | other (op : SandboxTasks.Operation)

abbrev Operation.Answer : Operation → Type
  | .send _ => Response
  | .other op => op.Answer

abbrev Routine (α : Type) := Program Operation Operation.Answer α

def ask (op : SandboxTasks.Operation) : Routine op.Answer := Program.ask (Operation.other op)

def send (r : Request) : Routine Response := Program.ask (Operation.send r)

def refusalStatusField := required "status" decodeString
def refusalMessageField := withDefault "message" "" decodeString
def refusalReasonField := withDefault "reason" "" decodeString
def refusalCodeField := required "code" (decodeNat 65536)

def decodeRefusal (j : Json) : Except Fault ClusterError := do
  let s ← j.slots [refusalStatusField.form, refusalMessageField.form, refusalReasonField.form, refusalCodeField.form]
  return .refused (← refusalCodeField.read s) (← refusalMessageField.read s) (← refusalReasonField.read s)

def Response.refusal (r : Response) : ClusterError :=
  match decodeText decodeRefusal r.body with
  | .ok e => e
  | .error _ => .refused r.status (Text.quoted r.body) "Failed to parse error data"

def Response.isRefusal (r : Response) : Bool := Http.Status.isClientError r.status || Http.Status.isServerError r.status

def Response.read {α : Type} (decode : Json → Except Fault α) (r : Response) : Except ClusterError α :=
  if r.isRefusal then .error r.refusal
  else
    match decodeText decode r.body with
    | .ok a => .ok a
    | .error _ => .error .unreadable

def request {α : Type} (verb : Verb) (target : Option Target) (decode : Json → Except Fault α) :
    Routine (Except ClusterError α) := do
  match target with
  | none => return .error .unnameable
  | some target => return (← send ⟨verb, target⟩).read decode

/-- Takes the server's word that there is no such object for an answer. -/
def orAbsent {α : Type} : Except ClusterError α → Except ClusterError (Option α)
  | .ok a => .ok (some a)
  | .error (.refused code message reason) =>
    if reason = "NotFound" then .ok none else .error (.refused code message reason)
  | .error e => .error e

def ofOutcome? : String → Option Unit
  | "Success" => some ()
  | "Failure" => some ()
  | _ => none

def causeForms : List (Field.Form Json) := [
  (withDefault "reason" "" decodeString).form,
  (withDefault "message" "" decodeString).form,
  (withDefault "field" "" decodeString).form]

def decodeCause (j : Json) : Except Fault Unit := do
  let _ ← j.slots causeForms
  return ()

def detailsForms : List (Field.Form Json) := [
  (withDefault "name" "" decodeString).form,
  (withDefault "group" "" decodeString).form,
  (withDefault "kind" "" decodeString).form,
  (withDefault "uid" "" decodeString).form,
  (withDefault "causes" [] (decodeList decodeCause)).form,
  (withDefault "retryAfterSeconds" 0 (decodeNat 4294967296)).form]

def decodeDetails (j : Json) : Except Fault Unit := do
  let _ ← j.slots detailsForms
  return ()

def acknowledgementForms : List (Field.Form Json) := [
  (optional "status" (decodeName ofOutcome?)).form,
  (withDefault "code" 0 (decodeNat 65536)).form,
  (withDefault "message" "" decodeString).form,
  (withDefault "reason" "" decodeString).form,
  (optional "details" decodeDetails).form]

/-- A deletion is answered with a word of success or with the object as it last was. -/
def decodeDeleted {α : Type} (decodeObject : Json → Except Fault α) (j : Json) : Except Fault Unit := do
  let whole ← decodeAny 127 j
  if whole.get? "kind" == some (.string "Status") then
    let _ ← j.slots acknowledgementForms
  else
    let _ ← decodeObject j

end SandboxTasks.Cluster
