import SandboxTasks.Store.Error
import SandboxTasks.Task.Record

namespace SandboxTasks

/-- The second status may replace the first: phases move forward, and an ended task keeps how it ended. -/
def Status.mayBecome (current next : Status) : Bool :=
  if current.phase.isTerminal then next.phase == current.phase && next.reason == current.reason
  else next.phase == current.phase || current.phase.precedes next.phase

namespace Store

structure Entry where
  record : Record
  version : Nat
deriving DecidableEq, Repr

def Entry.versioned (e : Entry) : Versioned := ⟨e.record, toString e.version⟩

structure Memory where
  entries : List Entry
deriving DecidableEq, Repr

namespace Memory

def empty : Memory := ⟨[]⟩

def stored? (m : Memory) (id : String) : Option Entry := m.entries.find? (·.record.id == id)

def insertEntry (e : Entry) : List Entry → List Entry
  | [] => [e]
  | f :: es => if e.record.id < f.record.id then e :: f :: es else f :: insertEntry e es

def create (m : Memory) (id : String) (spec : TaskSpec) (uid : String) (now : Instant) :
    Except StoreError Versioned × Memory :=
  if (m.stored? id).isSome then (.error (.alreadyExists id), m)
  else
    let e : Entry := ⟨⟨id, some uid, spec, .initial, now⟩, 1⟩
    (.ok e.versioned, ⟨insertEntry e m.entries⟩)

def find (m : Memory) (id : String) : Option Versioned := (m.stored? id).map Entry.versioned

def list (m : Memory) : List Versioned := m.entries.map Entry.versioned

def Entry.write (e : Entry) (status : Status) : Entry := ⟨{ e.record with status }, e.version + 1⟩

def swap (m : Memory) (id version : String) (status : Status) : Except StoreError Versioned × Memory :=
  match m.stored? id with
  | none => (.error (.notFound id), m)
  | some e =>
    if toString e.version ≠ version then (.error (.conflict id), m)
    else if e.record.status.mayBecome status then
      let e' := Entry.write e status
      (.ok e'.versioned, ⟨m.entries.map fun f => if f.record.id = id then e' else f⟩)
    else (.error (.illegalTransition id e.record.status.phase status.phase), m)

def erase (m : Memory) (id : String) : Bool × Memory :=
  ((m.stored? id).isSome, ⟨m.entries.filter (·.record.id != id)⟩)

end Memory

end Store

end SandboxTasks
