import SandboxTasks.Api.Message
import SandboxTasks.Text.Percent
import SandboxTasks.Text.Split

namespace SandboxTasks.Api

inductive Route where
  | health
  | readiness
  | create
  | get (id : String)
  | cancel (id : String)
  | data (id : String)
  | token (id : String)
  | report (id : String)
deriving DecidableEq, Repr

namespace Route

def endsPath (c : Char) : Bool := c = '?' || c = '#'

def isSchemeChar (c : Char) : Bool := c.isAlphanum || c = '+' || c = '-' || c = '.'

def behindScheme? (cs : List Char) : Option (List Char) :=
  match cs.dropWhile isSchemeChar with
  | ':' :: '/' :: '/' :: rest => some rest
  | _ => none

/-- The path, without query and fragment. A full URI that names no path means the root. -/
def path (uri : String) : List Char :=
  match behindScheme? uri.toList with
  | none => uri.toList.takeWhile (!endsPath ·)
  | some rest =>
    let path := (rest.dropWhile fun c => !(c = '/' || endsPath c)).takeWhile (!endsPath ·)
    if path.isEmpty then ['/'] else path

/-- The resource of a path. The ID of a task may be empty, but not where it ends the path. -/
def ofPath? (path : List Char) : Option Route :=
  match (Text.splitOn (· = '/') path).map String.ofList with
  | ["", "health"] => some .health
  | ["", "ready"] => some .readiness
  | ["", "tasks"] => some .create
  | ["", "tasks", id] => if id = "" then none else some (.get id)
  | ["", "tasks", id, "cancel"] => some (.cancel id)
  | ["", "tasks", id, "data"] => some (.data id)
  | ["", "tasks", id, "token"] => some (.token id)
  | ["", "tasks", id, "status"] => some (.report id)
  | _ => none

def isPosted : Route → Bool
  | .create | .cancel _ | .report _ => true
  | _ => false

/-- The method asks for the resource; a reader may ask for the head alone. -/
def allows (r : Route) (method : String) : Bool :=
  if r.isPosted then method == "POST" else method == "GET" || method == "HEAD"

end Route

end SandboxTasks.Api
