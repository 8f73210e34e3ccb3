import SandboxTasks.Field
import SandboxTasks.Json.Reader
import SandboxTasks.Time.Instant

namespace SandboxTasks.Json

def otherForm : Json → Fault
  | .unreadable _ => .malformed
  | _ => .mismatched

/-- A value that nobody asked for has to be JSON, of whatever depth and range. -/
def skip : Json → Except Fault Unit
  | .unreadable .key => .error .malformed
  | j => if j.isWellFormed then .ok () else .error .malformed

def decodeString : Json → Except Fault String
  | .string s => .ok s
  | j => .error j.otherForm

def decodeBool : Json → Except Fault Bool
  | .bool b => .ok b
  | j => .error j.otherForm

/-- A whole number below `limit`, written without fraction or exponent. -/
def decodeNat (limit : Nat) : Json → Except Fault Nat
  | .number (.integer i) => if 0 ≤ i ∧ i < limit then .ok i.toNat else .error .mismatched
  | j => .error j.otherForm

def decodeInstant : Json → Except Fault Instant
  | .string s =>
    match Instant.ofText? s with
    | some t => .ok t
    | none => .error .mismatched
  | j => .error j.otherForm

def decodeOption {α : Type} (decode : Json → Except Fault α) : Json → Except Fault (Option α)
  | .null => .ok none
  | j => (decode j).map some

def decodeElements {α : Type} (decode : Json → Except Fault α) : List Json → Except Fault (List α)
  | [] => .ok []
  | x :: xs => do
    let a ← decode x
    let as ← decodeElements decode xs
    return a :: as

def decodeList {α : Type} (decode : Json → Except Fault α) : Json → Except Fault (List α)
  | .array xs => decodeElements decode xs
  | j => .error j.otherForm

/-- A word that `ofName?` knows. One that it does not know is told before the value behind
it is read. -/
def decodeName {α : Type} (ofName? : String → Option α) : Json → Except Fault α
  | .string s =>
    match ofName? s with
    | some a => .ok a
    | none => .error .mismatched
  | .object ((_, .unreadable .key) :: _) => .error .malformed
  | .object ((_, .unreadable .name) :: _) => .error .malformed
  | .object ((key, v) :: ms) =>
    match ofName? key, v with
    | some a, .null => if ms.isEmpty then .ok a else .error .malformed
    | some _, v => .error v.otherForm
    | none, _ => .error .mismatched
  | _ => .error .malformed

/-- Any value that can be read throughout and nests at most `depth` deep, the last of equal names kept. -/
def decodeAny (depth : Nat) (j : Json) : Except Fault Json :=
  if j.isWhole depth then .ok j.sorted else .error .malformed

def slots (forms : List (Field.Form Json)) : Json → Except Fault (Slots Json)
  | .object ms => Slots.ofMembers forms skip [] ms
  | .array xs => Slots.ofElements forms xs
  | j => .error j.otherForm

def required {α : Type} (name : String) (decode : Json → Except Fault α) : Field Json α := ⟨name, none, decode, none⟩

/-- A field that may be missing, but not null. -/
def withDefault {α : Type} (name : String) (default : α) (decode : Json → Except Fault α) : Field Json α :=
  ⟨name, none, decode, some default⟩

/-- A field that may be missing or null. -/
def optional {α : Type} (name : String) (decode : Json → Except Fault α) : Field Json (Option α) :=
  ⟨name, none, decodeOption decode, some none⟩

def decodeText {α : Type} (decode : Json → Except Fault α) (text : String) : Except Fault α := do
  let doc := readDocument text.toList
  let a ← decode doc.root
  if doc.ends then return a else throw .malformed

def instant (t : Instant) : Json := .string t.toText

end SandboxTasks.Json
