import SandboxTasks.Api.Route
import SandboxTasks.Credential.Issue
import SandboxTasks.Credential.Wire
import SandboxTasks.Reconcile.Cleanup
import SandboxTasks.Report.Apply
import SandboxTasks.Report.Wire
import SandboxTasks.Task.Wire
import SandboxTasks.Text.Blank

namespace SandboxTasks.Api

open Json

structure Creation where
  id : Option String
  spec : TaskSpec
deriving DecidableEq, Repr

namespace Creation

def idField := optional "id" decodeString
def repositoryField := required "repo" Repository.decode
def callbackUrlField : Field Json (Option String) := { optional "callbackURL" decodeString with synonym := some "callbackUrl" }

def decode (j : Json) : Except Fault Creation := do
  let s ← j.slots [idField.form, TaskSpec.descriptionField.form, TaskSpec.contextField.form,
    TaskSpec.sourceReferenceField.form, repositoryField.form, callbackUrlField.form, TaskSpec.templateField.form]
  return ⟨← idField.read s, ⟨← TaskSpec.descriptionField.read s, ← TaskSpec.contextField.read s,
    ← TaskSpec.sourceReferenceField.read s, ← repositoryField.read s, ← callbackUrlField.read s,
    ← TaskSpec.templateField.read s⟩⟩

def objection? (id : String) (spec : TaskSpec) : Option String :=
  match TaskId.fault? id with
  | some fault => some fault.message
  | none =>
    if Text.isBlankText spec.description then some "description must not be empty"
    else if spec.repository.slug?.isNone then
      some ("repository URL '" ++ spec.repository.url ++ "' does not name a repository")
    else none

end Creation

def notFound (id : String) : Response := .error 404 ("task " ++ id ++ " not found")

def storeFailure : StoreError → Response
  | .notFound id => notFound id
  | .alreadyExists id => .error 409 ("task " ++ id ++ " already exists")
  | .conflict id => .error 503 ("task " ++ id ++ " is being updated concurrently, retry")
  | e => .error 500 e.message

def credentialStatus : CredentialError → Nat
  | .unknownTask _ => 404
  | .alreadyIssued _ => 409
  | .taskTerminal _ _ => 410
  | .notConfigured => 503
  | .exchange _ => 503
  | .store (.conflict _) => 503
  | .store _ => 500

def createTask (request : Creation) : Routine Response := do
  let id ← match request.id with
    | some id => pure id
    | none => pure (TaskId.ofEntropy (← ask .entropy))
  match Creation.objection? id request.spec with
  | some message => return .error 400 message
  | none =>
    match ← ask (.create id request.spec) with
    | .ok _ => return .json 201 (.object [("id", .string id)])
    | .error e => return storeFailure e

def withRecord (id : String) (go : Record → Response) : Routine Response := do
  match ← ask (.find id) with
  | .error e => return storeFailure e
  | .ok none => return notFound id
  | .ok (some task) => return go task.record

def getTask (id : String) : Routine Response := withRecord id fun r =>
  .json 200 (.object [("id", .string r.id), ("spec", r.spec.encode), ("status", r.status.encode),
    ("createdAt", instant r.createdAt)])

def cancelTask (id : String) : Routine Response := do
  match ← Reconcile.cancel id with
  | .error e => return .error 500 e.message
  | .ok none => return notFound id
  | .ok (some phase) => return .json 200 (.object [("id", .string id), ("phase", .string phase.name)])

def taskData (id : String) : Routine Response := withRecord id fun r =>
  if r.status.phase.isTerminal then .error 410 ("task " ++ id ++ " is already " ++ r.status.phase.name)
  else .json 200 (ofFields [
    ("taskID", some (.string r.id)),
    ("description", some (.string r.spec.description)),
    ("context", r.spec.context.map .string),
    ("sourceReference", r.spec.sourceReference.map .string),
    ("repository", some r.spec.repository.encode)])

def taskToken (configured : Bool) (id : String) : Routine Response := do
  match ← Credential.issue configured id with
  | .ok grant => return .json 200 grant.encode
  | .error e => return .error (credentialStatus e) e.message

def applied (phase : Phase) (changed : Bool) : Response :=
  .json 200 (.object [("phase", .string phase.name), ("applied", .bool changed)])

def reportStatus (id : String) (report : Report) : Routine Response := do
  match ← report.apply id with
  | .error e => return .error 503 e.message
  | .ok (.accepted phase changed) => return applied phase changed
  | .ok (.alreadyTerminal phase) => return applied phase false
  | .ok .unknownTask => return notFound id

def health : Response := .json 200 (.object [
  ("status", .string "healthy"), ("service", .string "sandbox-controller"), ("version", .string "0.1.0")])

def readiness : Response := .json 200 (.object [("status", .string "ready")])

def readBody {α : Type} (decode : Json → Except Fault α) (request : Request) : Except Response α :=
  if !(request.contentType.map isJsonType).getD false then
    .error ⟨415, .text "Expected request with `Content-Type: application/json`"⟩
  else
    match decodeText decode request.body with
    | .ok a => .ok a
    | .error .malformed => .error ⟨400, .text "Failed to parse the request body as JSON"⟩
    | .error .mismatched => .error ⟨422, .text "Failed to deserialize the JSON body into the target type"⟩

def withId (id : String) (go : String → Routine Response) : Routine Response :=
  match Text.Percent.decode? id with
  | some id => go id
  | none => return ⟨400, .text "Invalid URL: Invalid UTF-8 in `id`"⟩

def dispatch (configured : Bool) (request : Request) : Route → Routine Response
  | .health => return health
  | .readiness => return readiness
  | .create =>
    match readBody Creation.decode request with
    | .ok creation => createTask creation
    | .error response => return response
  | .get id => withId id getTask
  | .cancel id => withId id cancelTask
  | .data id => withId id taskData
  | .token id => withId id (taskToken configured)
  | .report id => withId id fun id =>
    match readBody Report.decode request with
    | .ok report => reportStatus id report
    | .error response => return response

/-- Answers a request; `configured` says whether there is a credential exchange. -/
def handle (configured : Bool) (request : Request) : Routine Response := do
  match Route.ofPath? (Route.path request.uri) with
  | none => return .empty 404
  | some route =>
    if !route.allows request.method then return .empty 405
    let response ← dispatch configured request route
    return if request.method = "HEAD" then .empty response.status else response

def timeout : Response := .empty 408

end SandboxTasks.Api
