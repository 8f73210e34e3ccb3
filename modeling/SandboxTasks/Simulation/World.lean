import SandboxTasks.Report.Apply
import SandboxTasks.Sandbox.Memory
import SandboxTasks.Simulation.Script
import SandboxTasks.Store.Memory
import SandboxTasks.Task.Wire

namespace SandboxTasks.Simulation

inductive Call where
  | provision (id : String)
  | poll (claim : String)
  | deleteClaim (claim : String)
  | assign (address id callbackApi : String)
  | exchange (repository : Repository)
  | send (channel : String) (event : Callback.Event)
deriving DecidableEq, Repr

structure World where
  clock : Instant
  store : Store.Memory
  sandboxes : Sandbox.Memory
  scripts : Scripts
  exchanges : Nat
  entropy : Nat
  calls : List Call

namespace World

def new (clock : Instant) : World := ⟨clock, .empty, .empty, [], 0, 0, []⟩

def note (w : World) (call : Call) : World := { w with calls := w.calls ++ [call] }

def nextEntropy (n : Nat) : Nat := (n * 0x5851F42D4C957F2D14057B7EF767814F + 0x14057B7EF767814F) % Nat.pow 2 122

/-- A store operation answered from memory alone, for those who act without a script. -/
def answerQuietly (op : Operation) (w : World) : op.Answer × World :=
  match op with
  | .now => (w.clock, w)
  | .entropy => (w.entropy, { w with entropy := nextEntropy w.entropy })
  | .find id => (.ok (w.store.find id), w)
  | .list => (.ok w.store.list, w)
  | .create id spec =>
    let (answer, store) := w.store.create id spec (TaskId.ofEntropy w.entropy) w.clock
    (answer, { w with store, entropy := nextEntropy w.entropy })
  | .swap id version status =>
    let (answer, store) := w.store.swap id version status
    (answer, { w with store })
  | .erase id =>
    let (erased, store) := w.store.erase id
    (.ok erased, { w with store })
  | .provision record =>
    let (answer, sandboxes) := w.sandboxes.provision record.id w.clock
    (answer, { w with sandboxes })
  | .poll sandbox => (.ok (w.sandboxes.poll sandbox.claim), w)
  | .deleteClaim sandbox =>
    let (deletion, sandboxes) := w.sandboxes.delete sandbox.claim
    (.ok deletion, { w with sandboxes })
  | .claims => (.ok w.sandboxes.summaries, w)
  | .assign _ _ _ => (.ok .accepted, w)
  | .exchange _ _ => (.error (.transient "no exchange"), w)
  | .send _ _ _ => (.ok (), w)
  | .sleep _ => ((), w)

def mergeMembers (status : Status) (members : List (String × Json)) : Option Status :=
  match status.encode with
  | .object ms =>
    let merged := members.foldl (fun ms (k, v) =>
      match v with
      | .null => Json.erase ms k
      | v => Json.set ms k v) ms
    (Status.decode (.object merged)).toOption
  | _ => none

def revise (w : World) (id : String) (change : Record → Option Status) : World :=
  match w.store.find id with
  | none => w
  | some task =>
    match change task.record with
    | none => w
    | some status => { w with store := (w.store.swap id task.version status).2 }

def act (w : World) : Action → World
  | .report id report => ((Report.apply id report).run answerQuietly w).2
  | .terminate id reason message => w.revise id (Change.finish reason message w.clock)
  | .merge id members => w.revise id fun r => mergeMembers r.status members
  | .erase id => { w with store := (w.store.erase id).2 }
  | .create id spec => ((Program.ask (.create id spec) : Routine _).run answerQuietly w).2
  | .advance nanos => { w with clock := ⟨w.clock.nanos + nanos, w.clock.leap⟩ }

def cue (w : World) (point : Point) : Reply × World :=
  let (cue, scripts) := w.scripts.take point
  (cue.reply, cue.actions.foldl act { w with scripts })

def fromStore {α : Type} (w : World) (point : Point) (id : String) (go : World → Except StoreError α × World) :
    Option (Except StoreError α) × World :=
  match w.cue point with
  | (.store fault, w) => (some (.error (fault.error id)), w)
  | (_, w) => let (a, w) := go w; (some a, w)

def fromSandboxes {α : Type} (w : World) (point : Point) (go : World → Except ProvisionError α × World) :
    Option (Except ProvisionError α) × World :=
  match w.cue point with
  | (.sandbox message, w) => (some (.error (.rejected message)), w)
  | (_, w) => let (a, w) := go w; (some a, w)

def insertSummary (c : Sandbox.ClaimSummary) : List Sandbox.ClaimSummary → List Sandbox.ClaimSummary
  | [] => [c]
  | d :: ds => if c.sandbox.claim < d.sandbox.claim then c :: d :: ds else d :: insertSummary c ds

def answerClaims (w : World) : Option (Except ProvisionError (List Sandbox.ClaimSummary)) × World :=
  match w.cue .listClaims with
  | (.sandbox message, w) => (some (.error (.rejected message)), w)
  | (.claims extra, w) => (some (.ok (extra.foldl (fun cs c => insertSummary c cs) w.sandboxes.summaries)), w)
  | (_, w) => (some (.ok w.sandboxes.summaries), w)

def workerAnswer (address : String) : WorkerReply → Except Assignment.Error Assignment.Acceptance
  | .accepted => .ok .accepted
  | .already => .ok .already
  | .refused => .error (.refused address)
  | .unexpected status body => .error (.unexpected status body)
  | .transport => .error (.transport "builder error")

def answerAssign (w : World) (address : String) : Except Assignment.Error Assignment.Acceptance × World :=
  match w.cue .assign with
  | (.worker reply, w) => (workerAnswer address reply, w)
  | (_, w) => (.ok .accepted, w)

def exchangeAnswer (w : World) (repository : Repository) : ExchangeReply → Option (Except ExchangeError Grant)
  | .grant credential expiresAt =>
    some (.ok ⟨credential.getD ("token-" ++ toString w.exchanges), expiresAt.getD (w.clock.later (.ofSeconds 3600))⟩)
  | .transient reason => some (.error (.transient reason))
  | .rejected status body => some (.error (.rejected status body))
  | .invalid => some (.error (.invalidRepository repository.url))
  | .hang => none

def answerExchange (w : World) (repository : Repository) : Option (Except ExchangeError Grant) × World :=
  let w := { w with exchanges := w.exchanges + 1 }
  match w.cue .exchange with
  | (.exchange reply, w) => (w.exchangeAnswer repository reply, w)
  | (_, w) => (w.exchangeAnswer repository (.grant none none), w)

def answerSend (w : World) (channel : String) : Except Callback.Error Unit × World :=
  match w.cue (.send channel) with
  | (.channel error, w) => (.error error, w)
  | (_, w) => (.ok (), w)

def answer (op : Operation) (w : World) : Option op.Answer × World :=
  match op with
  | .now => (some w.clock, w)
  | .entropy => (some w.entropy, { w with entropy := nextEntropy w.entropy })
  | .find id => w.fromStore .get id (answerQuietly (.find id))
  | .list => w.fromStore .list "*" (answerQuietly .list)
  | .create id spec => w.fromStore .create id (answerQuietly (.create id spec))
  | .swap id version status => w.fromStore .cas id (answerQuietly (.swap id version status))
  | .erase id => w.fromStore .delete id (answerQuietly (.erase id))
  | .provision record => (w.note (.provision record.id)).fromSandboxes .provision (answerQuietly (.provision record))
  | .poll sandbox => (w.note (.poll sandbox.claim)).fromSandboxes .poll (answerQuietly (.poll sandbox))
  | .deleteClaim sandbox =>
    (w.note (.deleteClaim sandbox.claim)).fromSandboxes .deleteClaim (answerQuietly (.deleteClaim sandbox))
  | .claims => w.answerClaims
  | .assign address id callbackApi =>
    let (a, w) := (w.note (.assign address id callbackApi)).answerAssign address
    (some a, w)
  | .exchange _ repository => (w.note (.exchange repository)).answerExchange repository
  | .send _ channel event =>
    let (a, w) := (w.note (.send channel event)).answerSend channel
    (some a, w)
  | .sleep _ => (some (), w)

/-- Runs a process; none if it waits for an answer that never comes, in which case it is dropped there and what
it leaves behind is run. -/
def perform {α : Type} (w : World) (p : Routine α) (abandoned : Operation → Routine Unit) : Option α × World :=
  match p.attempt answer w with
  | (.ended a, w) => (some a, w)
  | (.waiting op, w) => (none, ((abandoned op).attempt answer w).2)

end World

end SandboxTasks.Simulation
