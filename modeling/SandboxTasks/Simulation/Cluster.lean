import SandboxTasks.Cluster.Client
import SandboxTasks.Json.MergePatch
import SandboxTasks.Simulation.World

namespace SandboxTasks.Simulation

open Cluster (Request Response)

def refusal (code : Nat) (reason message : String) : Response where
  status := code
  body := Json.toText <| .object [
    ("kind", .string "Status"),
    ("apiVersion", .string "v1"),
    ("metadata", .object []),
    ("status", .string "Failure"),
    ("message", .string message),
    ("reason", .string reason),
    ("code", .nat code)]

structure ScriptedCluster where
  replies : List Response
  received : List Request
  world : World

namespace ScriptedCluster

def answer (op : Cluster.Operation) (s : ScriptedCluster) : Option op.Answer × ScriptedCluster :=
  match op with
  | .send request =>
    let s := { s with received := s.received ++ [request] }
    match s.replies with
    | [] => (some (refusal 500 "InternalError" "script exhausted"), s)
    | reply :: replies => (some reply, { s with replies })
  | .other op => let (a, world) := s.world.answer op; (a, { s with world })

end ScriptedCluster

structure StoredObject where
  collection : String
  name : String
  value : Json

def StoredObject.path (o : StoredObject) : String := o.collection ++ "/" ++ o.name

structure ServerFault where
  method : String
  pathEnd : String
  code : Nat
  reason : String
deriving DecidableEq, Repr

def ServerFault.concerns (f : ServerFault) (r : Request) : Bool :=
  f.method == r.verb.method && r.target.path.endsWith f.pathEnd

structure ObjectServer where
  collections : List String
  objects : List StoredObject
  version : Nat
  faults : List ServerFault
  received : List Request
  world : World

namespace ObjectServer

def ok (status : Nat) (value : Json) : Response := ⟨status, value.toText⟩

def metadata (value : Json) : List (String × Json) := ((value.get? "metadata").getD .null).members

def stamped (value : Json) (version : Nat) : Json :=
  let version := Json.string (toString version)
  .object (Json.set value.members "metadata" (.object (Json.set (metadata value) "resourceVersion" version)))

def isGone (value : Json) : Bool :=
  ((Json.find? (metadata value) "deletionTimestamp").bind Json.text?).isSome &&
    match Json.find? (metadata value) "finalizers" with
    | some (.array xs) => xs.isEmpty
    | _ => true

def object? (s : ObjectServer) (path : String) : Option StoredObject := s.objects.find? (·.path == path)

/-- The path of the object that a part belongs to. What stands right behind a collection is no part. -/
def whole (s : ObjectServer) (path : String) : String :=
  let owner := (path.dropEnd "/status".length).toString
  if path.endsWith "/status" && !s.collections.contains owner then owner else path

def notFound (path : String) : Response := refusal 404 "NotFound" (path ++ " not found")

def get (s : ObjectServer) (path : String) : Response :=
  match s.object? path with
  | some o => ok 200 o.value
  | none =>
    if s.collections.contains path then
      ok 200 <| .object [
        ("kind", .string "List"),
        ("apiVersion", .string "v1"),
        ("metadata", .object [("resourceVersion", .string (toString s.version))]),
        ("items", .array ((s.objects.filter (·.collection == path)).map (·.value)))]
    else notFound path

def create (s : ObjectServer) (path : String) (value : Json) : Response × ObjectServer :=
  let name := ((Json.find? (metadata value) "name").bind Json.text?).getD ""
  if (s.object? (path ++ "/" ++ name)).isSome then (refusal 409 "AlreadyExists" (name ++ " already exists"), s)
  else
    let version := s.version + 1
    let value := stamped value version
    (ok 201 value, { s with version, objects := s.objects ++ [⟨path, name, value⟩] })

def write (s : ObjectServer) (path : String) (change : Json → Except Response Json) : Response × ObjectServer :=
  match s.object? path with
  | none => (notFound path, s)
  | some o =>
    match change o.value with
    | .error refused => (refused, s)
    | .ok value =>
      let version := s.version + 1
      let value := stamped value version
      let objects :=
        if isGone value then s.objects.filter (·.path != path)
        else s.objects.map fun p => if p.path = path then { p with value } else p
      (ok 200 value, { s with version, objects })

/-- A merge patch that names a version is refused unless that is the object's. -/
def merged (patch value : Json) : Except Response Json :=
  match Json.find? (metadata patch) "resourceVersion" with
  | some version =>
    if some version == Json.find? (metadata value) "resourceVersion" then .ok (Json.merge value patch)
    else .error (refusal 409 "Conflict" "the object has been modified")
  | none => .ok (Json.merge value patch)

def amended (patch : Json.Patch) (value : Json) : Except Response Json :=
  match patch.result? value with
  | some value => .ok value
  | none => .error (refusal 422 "Invalid" "the patch does not apply")

def delete (s : ObjectServer) (path : String) : Response × ObjectServer :=
  match s.object? path with
  | none => (notFound path, s)
  | some _ =>
    (ok 200 (.object [("kind", .string "Status"), ("apiVersion", .string "v1"), ("status", .string "Success")]),
      { s with objects := s.objects.filter (·.path != path) })

def treat (s : ObjectServer) (r : Request) : Response × ObjectServer :=
  let path := r.target.path
  match r.verb with
  | .get => (s.get path, s)
  | .create value => s.create path value
  | .merge patch => s.write (s.whole path) (merged patch)
  | .amend patch => s.write (s.whole path) (amended patch)
  | .delete _ => s.delete path

def receive (s : ObjectServer) (r : Request) : Response × ObjectServer :=
  let s := { s with received := s.received ++ [r] }
  match s.faults.findIdx? (·.concerns r) with
  | some i =>
    let response := match s.faults[i]? with
      | some f => refusal f.code f.reason "the request went wrong"
      | none => notFound r.target.path
    (response, { s with faults := s.faults.eraseIdx i })
  | none => s.treat r

def answer (op : Cluster.Operation) (s : ObjectServer) : Option op.Answer × ObjectServer :=
  match op with
  | .send request => let (response, s) := s.receive request; (some response, s)
  | .other op => let (a, world) := s.world.answer op; (a, { s with world })

end ObjectServer

end SandboxTasks.Simulation
