namespace SandboxTasks

inductive Fault where
  | malformed
  | mismatched
deriving DecidableEq, Repr

structure Field (ν α : Type) where
  name : String
  synonym : Option String
  decode : ν → Except Fault α
  /-- What the field is if it does not come; none if it must come. -/
  absent : Option α

/-- What the order of a record's members depends on. -/
structure Field.Form (ν : Type) where
  name : String
  synonym : Option String
  check : ν → Except Fault Unit
  isRequired : Bool

def Field.form {ν α : Type} (f : Field ν α) : Field.Form ν :=
  ⟨f.name, f.synonym, fun v => (f.decode v).map fun _ => (), f.absent.isNone⟩

def Field.Form.isNamed {ν : Type} (f : Field.Form ν) (key : String) : Bool := f.name == key || f.synonym == some key

abbrev Slots (ν : Type) := List (String × ν)

namespace Slots

variable {ν : Type}

def value? (slots : Slots ν) (name : String) : Option ν := (List.find? (·.1 == name) slots).map (·.2)

def complete (forms : List (Field.Form ν)) (slots : Slots ν) : Except Fault (Slots ν) :=
  if forms.all fun f => !f.isRequired || (slots.value? f.name).isSome then .ok slots else .error .mismatched

def ofMembers (forms : List (Field.Form ν)) (skip : ν → Except Fault Unit) :
    Slots ν → List (String × ν) → Except Fault (Slots ν)
  | seen, [] => complete forms seen
  | seen, (key, v) :: ms =>
    match forms.find? (·.isNamed key) with
    | none => do
      skip v
      ofMembers forms skip seen ms
    | some f =>
      if (seen.value? f.name).isSome then .error .mismatched
      else do
        f.check v
        ofMembers forms skip (seen ++ [(f.name, v)]) ms

/-- Elements in the order of the fields; there may be too few, if defaults make up for them, but not too many. -/
def ofElements : List (Field.Form ν) → List ν → Except Fault (Slots ν)
  | [], [] => .ok []
  | [], _ :: _ => .error .malformed
  | f :: fs, [] => if f.isRequired then .error .mismatched else ofElements fs []
  | f :: fs, v :: vs => do
    f.check v
    let rest ← ofElements fs vs
    return (f.name, v) :: rest

end Slots

def Field.read {ν α : Type} (f : Field ν α) (slots : Slots ν) : Except Fault α :=
  match slots.value? f.name with
  | some v => f.decode v
  | none =>
    match f.absent with
    | some a => .ok a
    | none => .error .mismatched

end SandboxTasks
