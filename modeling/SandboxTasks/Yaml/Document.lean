import SandboxTasks.Yaml.Node

namespace SandboxTasks.Yaml

def isAllowed (c : Char) : Bool :=
  let n := c.toNat
  n = 9 || n = 10 || n = 13 || (0x20 ≤ n && n ≤ 0x7E) || n = 0x85 || (0xA0 ≤ n && n ≤ 0xFFFD) || 0x10000 ≤ n

namespace Build

def standardHandles : List (String × String) := [("!", "!"), ("!!", "tag:yaml.org,2002:")]

def directives : Nat → (hasVersion : Bool) → List (String × String) → Build (Bool × List (String × String))
  | 0, _, _ => failure
  | fuel + 1, hasVersion, handles => do
    match ← peek with
    | some (.version major minor) =>
      if hasVersion ∨ major ≠ 1 ∨ (minor ≠ 1 ∧ minor ≠ 2) then failure
      advance
      directives fuel true handles
    | some (.tagHandle handle meaning) =>
      if handles.any (·.1 == handle) then failure
      advance
      directives fuel hasVersion ((handle, meaning) :: handles)
    | _ => return (hasVersion, handles)

def content (fuel : Nat) : Build Node := do
  match ← peek with
  | none => return empty
  | some .documentStart => return empty
  | some .documentEnd => return empty
  | some (.version _ _) => return empty
  | some (.tagHandle _ _) => return empty
  | some _ => node fuel true false

def document (fuel : Nat) : Build Node := do
  let (hasVersion, handles) ← directives fuel false []
  let isMarked := (← peek) = some .documentStart
  modify fun i => { i with handles := handles ++ standardHandles.filter fun h => !handles.any (·.1 == h.1) }
  if isMarked then
    advance
    content fuel
  else if hasVersion ∨ !handles.isEmpty then failure
  else node fuel true false

end Build

/-- Reads a text of at most one document. The document is none if there is nothing but white space and
comments; there is no result if the text is no YAML or holds a second document. -/
def readDocument? (text : String) : Option (Option Node) := do
  let cs := text.toList
  if !cs.all isAllowed then none
  let tokens ← Token.ofChars? cs
  if tokens.isEmpty then return none
  let fuel := 4 * tokens.length + 8
  let (root, rest) ← (Build.document fuel).run ⟨tokens, [], []⟩
  if (rest.tokens.dropWhile (· = .documentEnd)).isEmpty then return some root else none

end SandboxTasks.Yaml
