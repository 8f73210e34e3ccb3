import SandboxTasks.Http.Url
import SandboxTasks.Program
import SandboxTasks.Time.Instant

namespace SandboxTasks.Http

structure Header where
  name : String
  value : String
deriving DecidableEq, Repr

structure Request where
  method : String
  url : Url
  headers : List Header
  body : Option String
deriving DecidableEq, Repr

structure Response where
  status : Nat
  location : Option String
  body : String
deriving DecidableEq, Repr

inductive Silence where
  | refused
  | closed
deriving DecidableEq, Repr

inductive Failure where
  /-- There is no request to be made; the URL is named if there is one. -/
  | unusable (url : Option Url)
  | unanswered (silence : Silence) (url : Url)
  | redirects (url : Url)
deriving DecidableEq, Repr

namespace Failure

def message : Failure → String
  | .unusable none => "builder error"
  | .unusable (some url) => "builder error for url (" ++ url.toText ++ ")"
  | .unanswered _ url => "error sending request for url (" ++ url.toText ++ ")"
  | .redirects url => "error following redirect for url (" ++ url.toText ++ ")"

def isRefused : Failure → Bool
  | .unanswered .refused _ => true
  | _ => false

end Failure

inductive Operation where
  | now
  | sleep (length : Duration)
  | send (request : Request)

abbrev Operation.Answer : Operation → Type
  | .now => Instant
  | .sleep _ => Unit
  | .send _ => Except Silence Response

abbrev Routine (α : Type) := Program Operation Operation.Answer α

def ask (op : Operation) : Routine op.Answer := Program.ask op

/-- A text that a header can carry: no control characters but tabs. -/
def isHeaderText (s : String) : Bool := s.toList.all fun c => c = '\t' || (0x20 ≤ c.toNat && c.toNat ≠ 0x7F)

def hasHost (url : Url) : Bool := url.authority.any fun a => !a.host.isEmpty

def urlLimit : Nat := 65534

/-- A request can name the URL; quotes and braces are no part of a name that is sent. -/
def isRequestable (url : Url) : Bool :=
  let isSent (c : Char) : Bool := c ≠ '"' && c ≠ '\x60' && c ≠ '\x7b' && c ≠ '\x7d'
  url.isWeb && url.authority.all (·.host.all isSent) && url.toText.utf8ByteSize ≤ urlLimit

def post? (url : String) (headers : List Header) (body : String) : Except Failure Request :=
  match Url.ofText? url with
  | none => .error (.unusable none)
  | some u =>
    if !hasHost u then .error (.unusable (some u))
    else if headers.any fun h => !isHeaderText h.value then .error (.unusable none)
    else if !isRequestable u then .error (.unusable (some u))
    else .ok ⟨"POST", u, headers, some body⟩

def redirectLimit : Nat := 10

/-- The request that a response redirects to, if it is a redirect. -/
def redirected? (request : Request) (response : Response) : Option Request := do
  let location ← response.location
  let url ← Url.read? (some request.url) location
  if [301, 302, 303].contains response.status then
    let method := if request.method = "GET" ∨ request.method = "HEAD" then request.method else "GET"
    return ⟨method, url, request.headers.filter (·.name ≠ "content-type"), none⟩
  else if [307, 308].contains response.status then return { request with url }
  else none

def follow : Nat → Request → Routine (Except Failure Response)
  | limit, request => do
    match ← ask (.send request) with
    | .error silence => return .error (.unanswered silence request.url)
    | .ok response =>
      match redirected? request response with
      | none => return .ok response
      | some next =>
        match limit with
        | 0 => return .error (.redirects next.url)
        | limit + 1 => follow limit next

def post (url : String) (headers : List Header) (body : String) : Routine (Except Failure Response) :=
  match post? url headers body with
  | .error e => return .error e
  | .ok request => follow redirectLimit request

end SandboxTasks.Http
