import SandboxTasks.Json.Basic
import SandboxTasks.Text.Digits

namespace SandboxTasks.Json

abbrev Pointer := List String

namespace Pointer

def escape (c : Char) : List Char :=
  if c = '~' then ['~', '0'] else if c = '/' then ['~', '1'] else [c]

def toText (p : Pointer) : String := String.join (p.map fun token => String.ofList ('/' :: token.toList.flatMap escape))

def index? (token : String) : Option Nat :=
  match token.toList with
  | [] => none
  | ['0'] => some 0
  | '0' :: _ => none
  | ds => if ds.all Text.isDigit then some (Text.digitsValue ds) else none

end Pointer

def child? (j : Json) (token : String) : Option Json :=
  match j with
  | .object ms => find? ms token
  | .array xs => (Pointer.index? token).bind fun i => xs[i]?
  | _ => none

def at? (j : Json) : Pointer → Option Json
  | [] => some j
  | token :: rest => (j.child? token).bind fun child => child.at? rest

def replaceChild (j : Json) (token : String) (value : Json) : Json :=
  match j with
  | .object ms => .object (set ms token value)
  | .array xs => .array (match Pointer.index? token with
    | some i => xs.set i value
    | none => xs)
  | j => j

def alter? (change : Json → Option Json) (j : Json) : Pointer → Option Json
  | [] => change j
  | token :: rest => do
    let child ← j.child? token
    return j.replaceChild token (← child.alter? change rest)

/-- Adds a member, or an element in front of the one at an index; a hyphen stands for the end. -/
def addChild? (token : String) (value : Json) : Json → Option Json
  | .object ms => some (.object (set ms token value))
  | .array xs =>
    if token = "-" then some (.array (xs ++ [value]))
    else (Pointer.index? token).bind fun i =>
      if i ≤ xs.length then some (.array (xs.take i ++ value :: xs.drop i)) else none
  | _ => none

def removeChild? (token : String) : Json → Option Json
  | .object ms => if (find? ms token).isSome then some (.object (erase ms token)) else none
  | .array xs => (Pointer.index? token).bind fun i => if i < xs.length then some (.array (xs.eraseIdx i)) else none
  | _ => none

inductive Change where
  /-- The value at a place must be this one. A place that is not there counts as null. -/
  | test (place : Pointer) (value : Json)
  | add (parent : Pointer) (token : String) (value : Json)
  | remove (parent : Pointer) (token : String)

abbrev Patch := List Change

namespace Change

/-- Values are compared without regard to the order of members. -/
def result? (j : Json) : Change → Option Json
  | .test place value => if ((j.at? place).getD .null).sorted == value.sorted then some j else none
  | .add parent token value => j.alter? (addChild? token value) parent
  | .remove parent token => j.alter? (removeChild? token) parent

def encode : Change → Json
  | .test place value => .object [("op", .string "test"), ("path", .string place.toText), ("value", value)]
  | .add parent token value =>
    .object [("op", .string "add"), ("path", .string (Pointer.toText (parent ++ [token]))), ("value", value)]
  | .remove parent token => .object [("op", .string "remove"), ("path", .string (Pointer.toText (parent ++ [token])))]

end Change

namespace Patch

def result? (j : Json) (patch : Patch) : Option Json := patch.foldlM Change.result? j

def encode (patch : Patch) : Json := .array (patch.map Change.encode)

end Patch

end SandboxTasks.Json
