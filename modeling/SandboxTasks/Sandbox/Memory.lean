import SandboxTasks.Sandbox.State

namespace SandboxTasks.Sandbox

structure Claim where
  name : String
  task : String
  state : State
  createdAt : Instant
deriving DecidableEq, Repr

/-- Claims in ascending order of their names, and counts of what was done to them. -/
structure Memory where
  claims : List Claim
  created : Nat
  deleteCalls : Nat
  deleted : Nat
  refusals : Nat
deriving DecidableEq, Repr

namespace Memory

def empty : Memory := ⟨[], 0, 0, 0, 0⟩

def claim? (m : Memory) (name : String) : Option Claim := m.claims.find? (·.name == name)

def insertClaim (c : Claim) : List Claim → List Claim
  | [] => [c]
  | d :: ds => if c.name < d.name then c :: d :: ds else d :: insertClaim c ds

def provision (m : Memory) (id : String) (now : Instant) : Except ProvisionError SandboxRef × Memory :=
  if 0 < m.refusals then
    (.error (.rejected "injected provisioning failure"), { m with refusals := m.refusals - 1 })
  else
    let name := TaskId.claimName id
    match m.claim? name with
    | some _ => (.ok ⟨name, none⟩, m)
    | none => (.ok ⟨name, none⟩, { m with
        claims := insertClaim ⟨name, id, .unknown, now⟩ m.claims
        created := m.created + 1 })

def poll (m : Memory) (name : String) : State :=
  match m.claim? name with
  | some c => c.state
  | none => .absent

def withoutClaim (m : Memory) (name : String) : Memory := { m with claims := m.claims.filter (·.name != name) }

def delete (m : Memory) (name : String) : Deletion × Memory :=
  let m := { m with deleteCalls := m.deleteCalls + 1 }
  match m.claim? name with
  | some _ => (.deleted, { m.withoutClaim name with deleted := m.deleted + 1 })
  | none => (.absent, m)

def summaries (m : Memory) : List ClaimSummary := m.claims.map fun c => ⟨⟨c.name, none⟩, some c.task, some c.createdAt⟩

def setState (m : Memory) (id : String) (state : State) : Memory :=
  { m with claims := m.claims.map fun c => if c.name = TaskId.claimName id then { c with state } else c }

def refuseNext (m : Memory) (count : Nat) : Memory := { m with refusals := count }

def vanish (m : Memory) (id : String) : Memory := m.withoutClaim (TaskId.claimName id)

def insert (m : Memory) (id : String) (createdAt : Instant) : Memory :=
  let m := m.vanish id
  { m with claims := insertClaim ⟨TaskId.claimName id, id, .unknown, createdAt⟩ m.claims }

def holds (m : Memory) (id : String) : Bool := (m.claim? (TaskId.claimName id)).isSome

end Memory

end SandboxTasks.Sandbox
