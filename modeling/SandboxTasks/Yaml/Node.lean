import SandboxTasks.Yaml.Token

namespace SandboxTasks.Yaml

structure Properties where
  anchor : Option Nat
  tag : Option String
deriving DecidableEq, Repr

inductive Node where
  | scalar (properties : Properties) (style : Style) (text : String)
  | sequence (properties : Properties) (items : List Node)
  | mapping (properties : Properties) (entries : List (Node × Node))
  | alias (number : Nat)
deriving Repr, Inhabited

namespace Node

def properties? : Node → Option Properties
  | .scalar p _ _ => some p
  | .sequence p _ => some p
  | .mapping p _ => some p
  | .alias _ => none

def bears (number : Nat) (n : Node) : Bool := n.properties?.any (·.anchor == some number)

mutual

def anchored? (number : Nat) (n : Node) : Option Node :=
  match n with
  | .sequence _ items => (anchoredItem? number items).or (if n.bears number then some n else none)
  | .mapping _ entries => (anchoredPair? number entries).or (if n.bears number then some n else none)
  | n => if n.bears number then some n else none

def anchoredItem? (number : Nat) : List Node → Option Node
  | [] => none
  | n :: ns => (anchoredItem? number ns).or (anchored? number n)

def anchoredPair? (number : Nat) : List (Node × Node) → Option Node
  | [] => none
  | (k, v) :: es => (anchoredPair? number es).or ((anchored? number v).or (anchored? number k))

end

def target (n root : Node) : Node :=
  match n with
  | .alias number => (root.anchored? number).getD n
  | n => n

end Node

structure Input where
  tokens : List Token
  anchors : List (String × Nat)
  handles : List (String × String)

abbrev Build (α : Type) := StateT Input Option α

namespace Build

def peek : Build (Option Token) := return (← get).tokens.head?

def advance : Build Unit := modify fun i => { i with tokens := i.tokens.tail }

def number (name : String) : Build Nat := do
  let i ← get
  let n := i.anchors.length
  set { i with anchors := (name, n) :: i.anchors.filter (·.1 != name) }
  return n

def aliasOf (name : String) : Build Node := do
  let i ← get
  match i.anchors.find? (·.1 == name) with
  | some (_, n) => return .alias n
  | none => failure

def tagOf (handle suffix : String) : Build String := do
  if handle = "" then return suffix
  let i ← get
  match i.handles.find? (·.1 == handle) with
  | some (_, meaning) => return meaning ++ suffix
  | none => failure

def properties : Build Properties := do
  match ← peek with
  | some (.anchor name) =>
    advance
    match ← peek with
    | some (.tag handle suffix) => advance; return ⟨some (← number name), some (← tagOf handle suffix)⟩
    | _ => return ⟨some (← number name), none⟩
  | some (.tag handle suffix) =>
    advance
    match ← peek with
    | some (.anchor name) => advance; return ⟨some (← number name), some (← tagOf handle suffix)⟩
    | _ => return ⟨none, some (← tagOf handle suffix)⟩
  | _ => return ⟨none, none⟩

def empty : Node := .scalar ⟨none, none⟩ .plain ""

mutual

/-- A node. Block collections cannot stand within flow collections, and only a value of a block mapping can be a
sequence that is not indented. -/
def node : Nat → (inBlock indentless : Bool) → Build Node
  | 0, _, _ => failure
  | fuel + 1, inBlock, indentless => do
    match ← peek with
    | some (.alias name) => advance; aliasOf name
    | _ =>
      let p ← properties
      match ← peek, inBlock, indentless with
      | some .blockEntry, _, true => return .sequence p (← loose fuel)
      | some (.scalar style text), _, _ => advance; return .scalar p style text
      | some .flowSequenceStart, _, _ => advance; return .sequence p (← flowItems fuel true)
      | some .flowMappingStart, _, _ => advance; return .mapping p (← flowEntries fuel true)
      | some .sequenceStart, true, _ => advance; return .sequence p (← blockItems fuel)
      | some .mappingStart, true, _ => advance; return .mapping p (← blockEntries fuel)
      | _, _, _ => if p.anchor.isSome ∨ p.tag.isSome then return .scalar p .plain "" else failure

def nodeUnless : Nat → List Token → (inBlock indentless : Bool) → Build Node
  | 0, _, _, _ => failure
  | fuel + 1, ends, inBlock, indentless => do
    match ← peek with
    | some t => if ends.contains t then return empty else node fuel inBlock indentless
    | none => node fuel inBlock indentless

def blockItems : Nat → Build (List Node)
  | 0 => failure
  | fuel + 1 => do
    match ← peek with
    | some .blockEntry =>
      advance
      let n ← nodeUnless fuel [.blockEntry, .blockEnd] true false
      return n :: (← blockItems fuel)
    | some .blockEnd => advance; return []
    | _ => failure

def loose : Nat → Build (List Node)
  | 0 => failure
  | fuel + 1 => do
    match ← peek with
    | some .blockEntry =>
      advance
      let n ← nodeUnless fuel [.blockEntry, .key, .value, .blockEnd] true false
      return n :: (← loose fuel)
    | _ => return []

def valueUnless : Nat → List Token → (inBlock indentless : Bool) → Build Node
  | 0, _, _, _ => failure
  | fuel + 1, ends, inBlock, indentless => do
    match ← peek with
    | some .value => advance; nodeUnless fuel ends inBlock indentless
    | _ => return empty

def blockEntries : Nat → Build (List (Node × Node))
  | 0 => failure
  | fuel + 1 => do
    match ← peek with
    | some .key =>
      advance
      let k ← nodeUnless fuel [.key, .value, .blockEnd] true true
      let v ← valueUnless fuel [.key, .value, .blockEnd] true true
      return (k, v) :: (← blockEntries fuel)
    | some .blockEnd => advance; return []
    | _ => failure

/-- The items of a flow sequence, up to its end. An item that is an entry is a mapping of that one entry; a mark
of a key without key or value takes the token behind it with it. -/
def flowItems : Nat → (isFirst : Bool) → Build (List Node)
  | 0, _ => failure
  | fuel + 1, isFirst => do
    if (← peek) = some .flowSequenceEnd then
      advance
      return []
    if !isFirst then
      if (← peek) = some .flowEntry then advance else failure
    match ← peek with
    | some .flowSequenceEnd => advance; return []
    | some .key =>
      advance
      let t ← peek
      let k ← nodeUnless fuel [.value, .flowEntry, .flowSequenceEnd] false false
      if t.any [.value, .flowEntry, .flowSequenceEnd].contains then advance
      let v ← valueUnless fuel [.flowEntry, .flowSequenceEnd] false false
      return .mapping ⟨none, none⟩ [(k, v)] :: (← flowItems fuel false)
    | _ =>
      let n ← node fuel false false
      return n :: (← flowItems fuel false)

def flowEntries : Nat → (isFirst : Bool) → Build (List (Node × Node))
  | 0, _ => failure
  | fuel + 1, isFirst => do
    if (← peek) = some .flowMappingEnd then
      advance
      return []
    if !isFirst then
      if (← peek) = some .flowEntry then advance else failure
    match ← peek with
    | some .flowMappingEnd => advance; return []
    | some .key =>
      advance
      let k ← nodeUnless fuel [.value, .flowEntry, .flowMappingEnd] false false
      let v ← valueUnless fuel [.flowEntry, .flowMappingEnd] false false
      return (k, v) :: (← flowEntries fuel false)
    | _ =>
      let k ← node fuel false false
      return (k, empty) :: (← flowEntries fuel false)

end

end Build

end SandboxTasks.Yaml
