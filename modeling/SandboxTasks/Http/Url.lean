import SandboxTasks.Http.Host

namespace SandboxTasks.Http

structure Authority where
  user : List Char
  host : List Char
  port : Option Nat
deriving DecidableEq, Repr

inductive Path where
  | segments (names : List (List Char))
  | flat (text : List Char)
deriving DecidableEq, Repr

structure Url where
  scheme : List Char
  authority : Option Authority
  path : Path
  query : Option (List Char)
  fragment : Option (List Char)
deriving DecidableEq, Repr

namespace Url

def pathText (authority : Option Authority) : Path → List Char
  | .flat text => text
  | .segments names =>
    let text := names.flatMap ('/' :: ·)
    if authority.isNone ∧ names.head? = some [] ∧ 1 < names.length then '/' :: '.' :: text else text

def authorityText (a : Authority) : List Char :=
  '/' :: '/' :: a.user ++ a.host ++ match a.port with
    | some port => ':' :: (toString port).toList
    | none => []

def queryText : Option (List Char) → List Char
  | some query => '?' :: query
  | none => []

def target (u : Url) : String := String.ofList (pathText u.authority u.path ++ queryText u.query)

def toText (u : Url) : String :=
  String.ofList (u.scheme ++ [':'] ++ (u.authority.map authorityText).getD [] ++ pathText u.authority u.path ++
    queryText u.query ++ match u.fragment with
      | some fragment => '#' :: fragment
      | none => [])

def isPrintable (c : Char) : Bool := 0x20 ≤ c.toNat && c.toNat < 0x7F

def inFragment (c : Char) : Bool := isPrintable c && [' ', '"', '<', '>', '\x60'].all (c != ·)

def inPath (c : Char) : Bool := inFragment c && ['#', '?', '\x7b', '\x7d'].all (c != ·)

def inQuery (special : Bool) (c : Char) : Bool :=
  isPrintable c && [' ', '"', '#', '<', '>'].all (c != ·) && !(special && c = '\'')

def inUser (c : Char) : Bool := inPath c && ['/', ':', ';', '=', '@', '[', '\\', ']', '^', '|'].all (c != ·)

def impliedPort? (scheme : List Char) : Option Nat :=
  if scheme = "http".toList ∨ scheme = "ws".toList then some 80
  else if scheme = "https".toList ∨ scheme = "wss".toList then some 443
  else if scheme = "ftp".toList then some 21
  else none

def fileScheme : List Char := "file".toList

def isFile (scheme : List Char) : Bool := scheme = fileScheme

def isSpecial (scheme : List Char) : Bool := (impliedPort? scheme).isSome || isFile scheme

def isWeb (u : Url) : Bool := u.scheme = "http".toList || u.scheme = "https".toList

def isLetter (c : Char) : Bool := ('a' ≤ c && c ≤ 'z') || ('A' ≤ c && c ≤ 'Z')

def isSchemeChar (c : Char) : Bool := isLetter c || Text.isDigit c || c = '+' || c = '-' || c = '.'

def splitScheme? (cs : List Char) : Option (List Char × List Char) :=
  let name := cs.takeWhile isSchemeChar
  match cs.dropWhile isSchemeChar with
  | ':' :: rest => if cs.head?.any isLetter then some (Host.lower name, rest) else none
  | _ => none

/-- Spaces and controls at the ends do not count, and neither do line breaks and tabs anywhere. -/
def clean (cs : List Char) : List Char :=
  let isOuter (c : Char) : Bool := c.toNat ≤ 0x20
  let trimmed := ((cs.dropWhile isOuter).reverse.dropWhile isOuter).reverse
  trimmed.filter fun c => !(c = '\t' || c = '\n' || c = '\r')

def splitAtFirst (x : Char) (cs : List Char) : List Char × Option (List Char) :=
  (cs.takeWhile (· ≠ x), (cs.dropWhile (· ≠ x)).tail?)

def isSlash (special : Bool) (c : Char) : Bool := c = '/' || (special && c = '\\')

def isDot (cs : List Char) : Bool := cs = ['.'] || Host.lower cs = ['%', '2', 'e']

def isDoubleDot (cs : List Char) : Bool :=
  [['.', '.'], ['.', '%', '2', 'e'], ['%', '2', 'e', '.'], ['%', '2', 'e', '%', '2', 'e']].contains (Host.lower cs)

/-- A segment that names a drive, by a letter and a colon or bar. Nothing is above it. -/
def isDrive : List Char → Bool
  | c :: m :: rest => isLetter c && (m = ':' || m = '|') && rest.head?.all (· = '\\')
  | _ => false

def above (names : List (List Char)) : List (List Char) :=
  if names.getLast?.any isDrive then names else names.dropLast

def walk (names : List (List Char)) : List (List Char) → List (List Char)
  | [] => names
  | s :: rest =>
    let names := if isDoubleDot s then above names else names
    let names := if isDot s || isDoubleDot s then if rest.isEmpty then names ++ [[]] else names
      else names ++ [Text.Percent.encode inPath s]
    walk names rest

def pathFrom (special : Bool) (names : List (List Char)) (cs : List Char) : Path :=
  .segments (walk names (Text.splitOn (isSlash special) cs))

def rootPath (special : Bool) (cs : List Char) : Path :=
  match cs with
  | [] => if special then .segments [[]] else .segments []
  | c :: rest => pathFrom special [] (if isSlash special c then rest else c :: rest)

/-- A port of at most 65535, left out where the scheme implies it. -/
def port? (scheme : List Char) (cs : List Char) : Option (Option Nat) :=
  if cs.isEmpty then some none
  else if !cs.all Text.isDigit ∨ 65535 < Text.digitsValue cs then none
  else if impliedPort? scheme = some (Text.digitsValue cs) then some none
  else some (some (Text.digitsValue cs))

def splitPort : Bool → List Char → List Char × Option (List Char)
  | _, [] => ([], none)
  | inBrackets, c :: cs =>
    if c = ':' ∧ !inBrackets then ([], some cs)
    else
      let inBrackets := if c = '[' then true else if c = ']' then false else inBrackets
      let (host, port) := splitPort inBrackets cs
      (c :: host, port)

def splitUser (cs : List Char) : List Char × List Char :=
  ((cs.reverse.dropWhile (· ≠ '@')).tail.reverse, (cs.reverse.takeWhile (· ≠ '@')).reverse)

def namesUser (user : List Char) : Bool := !user.isEmpty && user ≠ [':']

/-- A name and a password are told apart from the URL and do not stay in it, unless they are no text. -/
def keptUser (user : List Char) : List Char :=
  let isText (cs : List Char) : Bool := (Text.Percent.decode? (String.ofList cs)).isSome
  let (name, password) := splitAtFirst ':' user
  let name := Text.Percent.encode inUser name
  let password := (password.filter (!·.isEmpty)).map (Text.Percent.encode inUser)
  if !namesUser user ∨ isText name ∧ (!name.isEmpty ∨ password.any isText) then []
  else name ++ (password.map (':' :: ·)).getD [] ++ ['@']

def authority? (scheme cs : List Char) : Option (Authority × List Char) := do
  let (user, place) := splitUser cs
  let (host, port) := splitPort false place
  let host ← if isSpecial scheme then Host.normal? host else Host.general? host
  if host.isEmpty ∧ (port.isSome ∨ namesUser user) then none
  let port := port.getD []
  return (⟨keptUser user, host, ← port? scheme (port.takeWhile (· ≠ '\\'))⟩, port.dropWhile (· ≠ '\\'))

def withAuthority? (scheme cs : List Char) (query fragment : Option (List Char)) : Option Url := do
  let special := isSpecial scheme
  let front := cs.takeWhile (!isSlash special ·)
  let rest := cs.dropWhile (!isSlash special ·)
  if front = ['@'] ∧ (!rest.isEmpty ∨ query.isSome ∨ fragment.isSome) then none
  let (authority, left) ← authority? scheme front
  return ⟨scheme, some authority, rootPath special (left ++ rest), query, fragment⟩

def startsWithSlashes (special : Bool) : List Char → Bool
  | a :: b :: _ => isSlash special a && isSlash special b
  | _ => false

def mounted : List (List Char) → List (List Char)
  | [c, m] :: rest => if isDrive [c, m] then [c, ':'] :: rest else [c, m] :: rest
  | segments => segments

/-- A file on a host, which may be the empty one; its path begins with one slash. -/
def fileOn (host : List Char) (segments : List (List Char)) (query fragment : Option (List Char)) : Url :=
  let names := (walk [] segments).dropWhile List.isEmpty
  ⟨fileScheme, some ⟨[], host, none⟩, .segments (if names.isEmpty then [[]] else names), query, fragment⟩

/-- A file behind two slashes. A drive takes the place of the host. -/
def hostedFile? (cs : List Char) (query fragment : Option (List Char)) : Option Url := do
  let host := cs.takeWhile (!isSlash true ·)
  let segments := Text.splitOn (isSlash true) ((cs.dropWhile (!isSlash true ·)).drop 1)
  if host.length = 2 ∧ isDrive host then
    return fileOn [] (mounted (Text.splitOn (isSlash true) cs)) query fragment
  if host.isEmpty then return fileOn [] segments query fragment
  let host ← Host.normal? host
  if host = "localhost".toList then return fileOn [] segments query fragment
  if segments.head?.any fun s => s.length = 2 && isDrive s then return fileOn [] (mounted segments) query fragment
  return fileOn host segments query fragment

def file? (cs : List Char) (query fragment : Option (List Char)) : Option Url :=
  if startsWithSlashes true cs then hostedFile? (cs.drop 2) query fragment
  else if cs.head?.any (isSlash true) then some (fileOn [] (Text.splitOn (isSlash true) cs.tail) query fragment)
  else some (fileOn [] (mounted (Text.splitOn (isSlash true) cs)) query fragment)

def absolute? (scheme cs : List Char) (query fragment : Option (List Char)) : Option Url :=
  if isFile scheme then file? cs query fragment
  else if isSpecial scheme then withAuthority? scheme (cs.dropWhile (isSlash true)) query fragment
  else if startsWithSlashes false cs then withAuthority? scheme (cs.drop 2) query fragment
  else if cs.head? = some '/' then some ⟨scheme, none, rootPath false cs, query, fragment⟩
  else some ⟨scheme, none, .flat (Text.Percent.encode isPrintable cs), query, fragment⟩

def relative? (base : Url) (cs : List Char) (query fragment : Option (List Char)) : Option Url :=
  let special := isSpecial base.scheme
  match base.path with
  | .flat _ => if cs.isEmpty ∧ query.isNone then some { base with fragment } else none
  | .segments names =>
    if startsWithSlashes special cs then withAuthority? base.scheme (cs.drop 2) query fragment
    else
      match cs with
      | [] => some { base with query := query.or base.query, fragment }
      | c :: rest =>
        if isSlash special c then some { base with path := pathFrom special [] rest, query, fragment }
        else some { base with path := pathFrom special names.dropLast (c :: rest), query, fragment }

/-- The scheme of `base` may be named where nothing but it is, of what the two share. -/
def sharesScheme (base : Url) (scheme cs : List Char) : Bool :=
  base.scheme = scheme && (impliedPort? scheme).isSome && !startsWithSlashes true cs

def read? (base : Option Url) (text : String) : Option Url :=
  let (front, fragment) := splitAtFirst '#' (clean text.toList)
  let (main, query) := splitAtFirst '?' front
  let fragment := fragment.map (Text.Percent.encode inFragment)
  let queryOf (scheme : List Char) := query.map (Text.Percent.encode (inQuery (isSpecial scheme)))
  match splitScheme? main with
  | some (scheme, rest) =>
    match base.filter (sharesScheme · scheme rest) with
    | some base => relative? base rest (queryOf scheme) fragment
    | none => absolute? scheme rest (queryOf scheme) fragment
  | none => base.bind fun base => relative? base main (queryOf base.scheme) fragment

def ofText? (text : String) : Option Url := read? none text

end Url

end SandboxTasks.Http
