import SandboxTasks.Operation
import SandboxTasks.Report.Event

namespace SandboxTasks.Simulation

inductive Point where
  | create
  | get
  | list
  | cas
  | delete
  | provision
  | poll
  | deleteClaim
  | listClaims
  | assign
  | exchange
  | send (channel : String)
deriving DecidableEq, Repr

inductive Action where
  | report (id : String) (report : Report)
  | terminate (id : String) (reason : EndReason) (message : Option String)
  | merge (id : String) (members : List (String × Json))
  | erase (id : String)
  | create (id : String) (spec : TaskSpec)
  | advance (nanos : Int)

inductive StoreFault where
  | conflict
  | notFound
  | alreadyExists
  | malformed (reason : String)
deriving DecidableEq, Repr

def StoreFault.error (id : String) : StoreFault → StoreError
  | .conflict => .conflict id
  | .notFound => .notFound id
  | .alreadyExists => .alreadyExists id
  | .malformed reason => .malformed id reason

inductive ExchangeReply where
  | grant (credential : Option String) (expiresAt : Option Instant)
  | transient (reason : String)
  | rejected (status : Nat) (body : String)
  | invalid
  | hang

inductive WorkerReply where
  | accepted
  | already
  | refused
  | unexpected (status : Nat) (body : String)
  | transport
deriving DecidableEq, Repr

inductive Reply where
  | normal
  | store (fault : StoreFault)
  | sandbox (message : String)
  | claims (extra : List Sandbox.ClaimSummary)
  | worker (reply : WorkerReply)
  | exchange (reply : ExchangeReply)
  | channel (error : Callback.Error)

structure Cue where
  actions : List Action
  reply : Reply

abbrev Scripts := List (Point × List Cue)

namespace Scripts

/-- Takes the next cue at a point; a call without one is answered normally. -/
def take (point : Point) : Scripts → Cue × Scripts
  | [] => (⟨[], .normal⟩, [])
  | (p, cues) :: rest =>
    if p = point then
      match cues with
      | [] => (⟨[], .normal⟩, (p, []) :: rest)
      | cue :: cues => (cue, (p, cues) :: rest)
    else
      let (cue, rest) := take point rest
      (cue, (p, cues) :: rest)

def push (point : Point) (more : List Cue) : Scripts → Scripts
  | [] => [(point, more)]
  | (p, cues) :: rest => if p = point then (p, cues ++ more) :: rest else (p, cues) :: push point more rest

end Scripts

end SandboxTasks.Simulation
