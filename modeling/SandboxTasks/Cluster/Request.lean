import SandboxTasks.Json.Patch

namespace SandboxTasks.Cluster

structure Kind where
  group : String
  version : String
  name : String
  plural : String
deriving DecidableEq, Repr

namespace Kind

def task : Kind := ⟨"agents.platform", "v1", "AgentTask", "agenttasks"⟩

def claim : Kind := ⟨"extensions.agents.x-k8s.io", "v1alpha1", "SandboxClaim", "sandboxclaims"⟩

def apiVersion (k : Kind) : String := k.group ++ "/" ++ k.version

def collection (k : Kind) (space : String) : String :=
  "/apis/" ++ k.apiVersion ++ "/namespaces/" ++ space ++ "/" ++ k.plural

def object (k : Kind) (metadata : List (String × Option Json)) (spec : Json) : Json := .object [
  ("apiVersion", .string k.apiVersion),
  ("kind", .string k.name),
  ("metadata", Json.ofFields metadata),
  ("spec", spec)]

end Kind

structure Target where
  path : String
  query : String
deriving DecidableEq, Repr

namespace Target

def isVisible (c : Char) : Bool := 0x20 < c.toNat && c.toNat != 0x7F

def isPathChar (c : Char) : Bool := isVisible c && c != '<' && c != '>' && c.toNat != 0x60

def isQueryChar (c : Char) : Bool := isVisible c && c != '<' && c != '>' && c != '"'

def textLimit : Nat := 65534

/-- A question mark ends the path, a number sign ends everything. -/
def ofText? (text : String) : Option Target :=
  let isPath c := c != '?' && c != '#'
  let path := text.toList.takeWhile isPath
  let query := match text.toList.dropWhile isPath with
    | '?' :: rest => rest.takeWhile (· != '#')
    | _ => []
  if textLimit < text.utf8ByteSize then none
  else if path.all isPathChar && query.all isQueryChar then some ⟨String.ofList path, String.ofList query⟩ else none

def collection? (k : Kind) (space selection : String) : Option Target :=
  ofText? (k.collection space ++ "?" ++ selection)

def objectText (k : Kind) (space name : String) : String := k.collection space ++ "/" ++ name

def object? (k : Kind) (space name : String) : Option Target :=
  if name = "" then none else ofText? (objectText k space name)

/-- An object that is changed, or the part of it that `part` names. Parameters may follow, but there are none. -/
def changed? (k : Kind) (space name part : String) : Option Target :=
  if name = "" then none else ofText? (objectText k space name ++ part ++ "?")

end Target

inductive Verb where
  | get
  | create (object : Json)
  | merge (patch : Json)
  | amend (patch : Json.Patch)
  | delete (options : Json)

namespace Verb

def method : Verb → String
  | .get => "GET"
  | .create _ => "POST"
  | .merge _ => "PATCH"
  | .amend _ => "PATCH"
  | .delete _ => "DELETE"

def contentType : Verb → Option String
  | .get => none
  | .create _ => some "application/json"
  | .merge _ => some "application/merge-patch+json"
  | .amend _ => some "application/json-patch+json"
  | .delete _ => some "application/json"

def body : Verb → Option Json
  | .get => none
  | .create object => some object
  | .merge patch => some patch
  | .amend patch => some patch.encode
  | .delete options => some options

end Verb

structure Request where
  verb : Verb
  target : Target

structure Response where
  status : Nat
  body : String
deriving DecidableEq, Repr

end SandboxTasks.Cluster
