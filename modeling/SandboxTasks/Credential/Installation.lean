import SandboxTasks.Credential.Grant
import SandboxTasks.Http.Client
import SandboxTasks.Http.Status
import SandboxTasks.Json.Decode
import SandboxTasks.Json.Printer
import SandboxTasks.Task.Repository
import SandboxTasks.Text.Base64
import SandboxTasks.Text.Quoted

namespace SandboxTasks.Credential

structure SigningKey where
  sign : List UInt8 → List UInt8

structure Installation where
  appId : String
  installationId : String
  apiBase : String
  maxAttempts : Nat
  initialBackoff : Duration
  requestTimeout : Duration
deriving DecidableEq, Repr

namespace Installation

def ofSettings? (appId installationId privateKey : Option String) (apiBase : String) (maxAttempts : Nat)
    (initialBackoff requestTimeout : Duration) : Option (Installation × String) := do
  return (⟨← appId, ← installationId, apiBase, maxAttempts, initialBackoff, requestTimeout⟩, ← privateKey)

def text (i : Installation) : String :=
  "GitHubAppExchange \x7b app_id: " ++ Text.quoted i.appId ++ ", installation_id: " ++ Text.quoted i.installationId ++
    ", api_base: " ++ Text.quoted i.apiBase ++ ", .. \x7d"

structure Assertion where
  issuer : String
  issuedAt : Int
  expiresAt : Int
deriving DecidableEq, Repr

/-- The app's assertion: dated back a minute against clocks that run apart, and valid for nine more. -/
def assertion (i : Installation) (now : Instant) : Assertion :=
  ⟨i.appId, now.epochSeconds - 60, now.epochSeconds + 540⟩

def Assertion.encode (a : Assertion) : Json := .object [
  ("iat", .int a.issuedAt),
  ("exp", .int a.expiresAt),
  ("iss", .string a.issuer)]

def Assertion.signed (key : SigningKey) (a : Assertion) : String :=
  let header := Json.object [("typ", .string "JWT"), ("alg", .string "RS256")]
  let text := String.ofList (Text.Base64.encodeText header.toText ++ '.' :: Text.Base64.encodeText a.encode.toText)
  text ++ "." ++ String.ofList (Text.Base64.encode (key.sign text.toUTF8.toList))

def dropSlashes (s : String) : String := String.ofList (s.toList.reverse.dropWhile (· = '/')).reverse

def url (i : Installation) : String :=
  dropSlashes i.apiBase ++ "/app/installations/" ++ i.installationId ++ "/access_tokens"

def headers (assertion : String) : List Http.Header := [
  ⟨"authorization", "Bearer " ++ assertion⟩,
  ⟨"accept", "application/vnd.github+json"⟩,
  ⟨"x-github-api-version", "2022-11-28"⟩,
  ⟨"user-agent", "sandbox-controller/0.1.0"⟩,
  ⟨"content-type", "application/json"⟩]

def body (repository : String) : Json := .object [("repositories", .array [.string repository])]

def tokenField := Json.required "token" Json.decodeString
def expiresAtField := Json.required "expires_at" Json.decodeInstant

def decodeToken (j : Json) : Except Fault Grant := do
  let s ← j.slots [tokenField.form, expiresAtField.form]
  return ⟨← tokenField.read s, ← expiresAtField.read s⟩

/-- What a response comes to. Of a token that cannot be read, the text leaves out what the decoder says of it, which the
service appends. -/
def outcome : Except Http.Failure Http.Response → Except ExchangeError Grant
  | .error e => .error (.transient e.message)
  | .ok response =>
    if Http.Status.isSuccess response.status then
      match Json.decodeText decodeToken response.body with
      | .ok grant => .ok grant
      | .error _ => .error (.transient "malformed token response")
    else if Http.Status.isServerError response.status || response.status == 429 then
      .error (.transient (Http.Status.text response.status ++ ": " ++ response.body))
    else .error (.rejected response.status response.body)

def attempt (i : Installation) (key : SigningKey) (repository : String) :
    Http.Routine (Except ExchangeError Grant) := do
  let now ← Http.ask .now
  let result ← Http.post i.url (headers ((i.assertion now).signed key)) (body repository).toText
  return outcome result

/-- The wait after an attempt, counted from one: it doubles from one to the next. Where the product is too long for a
duration, this is the longest one, while the service panics. -/
def delayAfter (i : Installation) (attempt : Nat) : Duration :=
  i.initialBackoff.scale (min (Nat.pow 2 (attempt - 1)) 4294967295)

def attempts (i : Installation) (once : Http.Routine (Except ExchangeError Grant)) :
    Nat → Nat → Http.Routine (Except ExchangeError Grant)
  | left, made => do
    match ← once with
    | .ok grant => return .ok grant
    | .error (.transient reason) =>
      match left with
      | 0 => return .error (.transient reason)
      | left + 1 =>
        Http.ask (.sleep (i.delayAfter (made + 1)))
        attempts i once left (made + 1)
    | .error e => return .error e

def exchange (i : Installation) (key : SigningKey) (repository : Repository) :
    Http.Routine (Except ExchangeError Grant) :=
  match repository.slug? with
  | none => return .error (.invalidRepository repository.url)
  | some slug => i.attempts (i.attempt key slug.name) (i.maxAttempts - 1) 0

end Installation

end SandboxTasks.Credential
