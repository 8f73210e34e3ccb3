import SandboxTasks.Json.Decode

namespace SandboxTasks.Cluster

open Json

/-- The members of a record whose fields may come more than once; the last one counts. -/
def latestSlots (forms : List (Field.Form Json)) : Slots Json → List (String × Json) → Except Fault (Slots Json)
  | seen, [] => .ok seen
  | seen, (key, v) :: ms =>
    match forms.find? (·.isNamed key) with
    | none => do
      skip v
      latestSlots forms seen ms
    | some f => do
      f.check v
      latestSlots forms ((f.name, v) :: seen) ms

def looseSlots (forms : List (Field.Form Json)) : Json → Except Fault (Slots Json)
  | .object ms => latestSlots forms [] ms
  | j => .error j.otherForm

def decodeLoose (forms : List (Field.Form Json)) (j : Json) : Except Fault Unit := do
  let _ ← looseSlots forms j
  return ()

def decodeInt : Json → Except Fault Int
  | .number (.integer i) => if -9223372036854775808 ≤ i ∧ i < 9223372036854775808 then .ok i else .error .mismatched
  | j => .error j.otherForm

def decodeTexts : Json → Except Fault (List (String × String))
  | .object ms => do
    let texts ← ms.mapM fun (key, v) => return (key, ← decodeString v)
    return texts.reverse
  | j => .error j.otherForm

structure Metadata where
  name : Option String
  namePattern : Option String
  uid : Option String
  version : Option String
  createdAt : Option Instant
  deletedAt : Option Instant
  labels : List (String × String)
  finalizers : List String
deriving DecidableEq, Repr

namespace Metadata

def id (m : Metadata) : String := (m.name <|> m.namePattern).getD ""

def label? (m : Metadata) (key : String) : Option String := (m.labels.find? (·.1 == key)).map (·.2)

def ownerForms : List (Field.Form Json) := [
  (optional "apiVersion" decodeString).form,
  (optional "blockOwnerDeletion" decodeBool).form,
  (optional "controller" decodeBool).form,
  (optional "kind" decodeString).form,
  (optional "name" decodeString).form,
  (optional "uid" decodeString).form]

/-- How deep the values may nest that managers of fields keep. -/
def managedDepth : Nat := 123

def managerForms : List (Field.Form Json) := [
  (optional "apiVersion" decodeString).form,
  (optional "fieldsType" decodeString).form,
  (optional "fieldsV1" (decodeAny managedDepth)).form,
  (optional "manager" decodeString).form,
  (optional "operation" decodeString).form,
  (optional "subresource" decodeString).form,
  (optional "time" decodeInstant).form]

def nameField := optional "name" decodeString
def namePatternField := optional "generateName" decodeString
def uidField := optional "uid" decodeString
def versionField := optional "resourceVersion" decodeString
def createdAtField := optional "creationTimestamp" decodeInstant
def deletedAtField := optional "deletionTimestamp" decodeInstant
def labelsField := optional "labels" decodeTexts
def finalizersField := optional "finalizers" (decodeList decodeString)

def forms : List (Field.Form Json) := [nameField.form, namePatternField.form, uidField.form, versionField.form,
  createdAtField.form, deletedAtField.form, labelsField.form, finalizersField.form,
  (optional "annotations" decodeTexts).form,
  (optional "deletionGracePeriodSeconds" decodeInt).form,
  (optional "generation" decodeInt).form,
  (optional "managedFields" (decodeList (decodeLoose managerForms))).form,
  (optional "namespace" decodeString).form,
  (optional "ownerReferences" (decodeList (decodeLoose ownerForms))).form,
  (optional "selfLink" decodeString).form]

def decode (j : Json) : Except Fault Metadata := do
  let s ← looseSlots forms j
  return {
    name := ← nameField.read s
    namePattern := ← namePatternField.read s
    uid := ← uidField.read s
    version := ← versionField.read s
    createdAt := ← createdAtField.read s
    deletedAt := ← deletedAtField.read s
    labels := (← labelsField.read s).getD []
    finalizers := (← finalizersField.read s).getD [] }

end Metadata

structure Object (σ τ : Type) where
  metadata : Metadata
  spec : σ
  status : Option τ

namespace Object

variable {σ τ : Type}

def isComplete (forms : List (Field.Form Json)) : Json → Bool
  | .array xs => forms.length ≤ xs.length
  | _ => true

/-- The status may be missing by name, but not in an array. -/
def decode (decodeSpec : Json → Except Fault σ) (decodeStatus : Json → Except Fault τ) (j : Json) :
    Except Fault (Object σ τ) := do
  let metadataField := required "metadata" Metadata.decode
  let specField := required "spec" decodeSpec
  let statusField := optional "status" decodeStatus
  let forms := [metadataField.form, specField.form, statusField.form]
  let s ← j.slots forms
  if !isComplete forms j then throw .mismatched
  return ⟨← metadataField.read s, ← specField.read s, ← statusField.read s⟩

def listForms : List (Field.Form Json) := [
  (optional "continue" decodeString).form,
  (optional "remainingItemCount" decodeInt).form,
  (optional "resourceVersion" decodeString).form,
  (optional "selfLink" decodeString).form]

/-- The items of a list; there must be a place for them, but it may be null. Whatever else a list says has to be
readable. -/
def decodeItems {α : Type} (decodeItem : Json → Except Fault α) (j : Json) : Except Fault (List α) := do
  let metadataField := withDefault "metadata" () (decodeLoose listForms)
  let itemsField : Field Json (Option (List α)) := ⟨"items", none, decodeOption (decodeList decodeItem), none⟩
  match j with
  | .object ms =>
    let s ← Slots.ofMembers [metadataField.form, itemsField.form] (fun v => (decodeAny 126 v).map fun _ => ()) [] ms
    return (← itemsField.read s).getD []
  | j => throw j.otherForm

end Object

end SandboxTasks.Cluster
