import SandboxTasks.Json.Printer

namespace SandboxTasks.Api

structure Request where
  method : String
  uri : String
  contentType : Option String
  body : String

inductive Body where
  | json (j : Json)
  | text (s : String)

structure Response where
  status : Nat
  body : Body

namespace Response

def empty (status : Nat) : Response := ⟨status, .text ""⟩

def json (status : Nat) (j : Json) : Response := ⟨status, .json j⟩

def error (status : Nat) (message : String) : Response := json status (.object [("error", .string message)])

end Response

def isTokenChar (c : Char) : Bool := c.isAlphanum || "!#$%&'*+-.^_|~".toList.contains c || c.toNat == 96

def isQuotedChar (c : Char) : Bool := 0x1F < c.toNat && c.toNat != 0x7F

/-- Drops a quoted text and the spaces behind it. It is not empty: a quote right behind the first one belongs to
it. -/
def dropQuoted? : List Char → Option (List Char)
  | [] => none
  | c :: cs =>
    match cs.dropWhile fun d => d != '"' && isQuotedChar d with
    | '"' :: rest => if isQuotedChar c then some (rest.dropWhile (· == ' ')) else none
    | _ => none

def dropWord? (cs : List Char) : Option (List Char) :=
  if cs.head?.all isTokenChar then some (cs.dropWhile isTokenChar) else none

def dropParameter? (cs : List Char) : Option (List Char) :=
  match cs.span isTokenChar with
  | ([], _) => none
  | (_, '=' :: '"' :: rest) => dropQuoted? rest
  | (_, '=' :: rest) => dropWord? rest
  | _ => none

/-- The text is a list of parameters, each behind a semicolon. `fuel` bounds their number. -/
def areParameters : Nat → List Char → Bool
  | _, [] => true
  | fuel + 1, ';' :: cs =>
    match cs.dropWhile (· == ' ') with
    | [] => true
    | cs =>
      match dropParameter? cs with
      | some rest => areParameters fuel rest
      | none => false
  | _, _ => false

/-- A subtype is cut at its last plus sign, unless that is its first character; either part may say JSON. -/
def namesJson (subtype : List Char) : Bool :=
  if (subtype.drop 1).contains '+' then
    let suffix := (subtype.reverse.takeWhile (· != '+')).reverse
    suffix == "json".toList || subtype.take (subtype.length - suffix.length - 1) == "json".toList
  else subtype == "json".toList

/-- The content type is JSON's, or one whose suffix says that it is JSON. It is ASCII throughout. -/
def isJsonType (contentType : String) : Bool :=
  let (kind, rest) := contentType.toList.span (· != '/')
  match rest with
  | '/' :: rest =>
    let (subtype, parameters) := rest.span isTokenChar
    contentType.toList.all (·.toNat < 0x80) && kind.map Char.toLower == "application".toList
      && namesJson (subtype.map Char.toLower)
      && areParameters parameters.length parameters
  | _ => false

end SandboxTasks.Api
