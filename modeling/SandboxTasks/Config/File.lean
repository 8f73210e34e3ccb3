import SandboxTasks.Config.Decode
import SandboxTasks.Yaml.Document

namespace SandboxTasks.Config

open Yaml (Node)

def isNull (text : String) : Bool := text = "~" || text = "null" || text = "Null" || text = "NULL"

def nullTag : String := "tag:yaml.org,2002:null"

def integerTag : String := "tag:yaml.org,2002:int"

def radixValue? (radix : Nat) (ds : List Char) : Option Nat :=
  if ds.isEmpty then none
  else ds.foldlM (fun n d => do
    let v ← Text.Hex.value? d
    if v < radix then return n * radix + v else none) 0

/-- A whole number: an optional plus, then digits, or a radix and digits. A decimal number has no needless zero
in front. -/
def wholeNumber? (cs : List Char) : Option Nat :=
  match if cs.head? = some '+' then cs.tail else cs with
  | '0' :: 'x' :: ds => radixValue? 16 ds
  | '0' :: 'o' :: ds => radixValue? 8 ds
  | '0' :: 'b' :: ds => radixValue? 2 ds
  | '0' :: d :: ds => if (d :: ds).all Text.isDigit then none else radixValue? 10 (d :: ds)
  | ds => radixValue? 10 ds

def decodeScalar (root n : Node) : Except Fault String :=
  match n.target root with
  | .scalar _ _ text => .ok text
  | _ => .error .mismatched

/-- A plain scalar that is empty or says so is none. -/
def decodeOptionalScalar (root n : Node) : Except Fault (Option String) :=
  match n.target root with
  | .scalar p .plain text =>
    match p.tag with
    | some tag =>
      if tag = nullTag then if isNull text then .ok none else .error .mismatched
      else .ok (some text)
    | none => if text = "" ∨ isNull text then .ok none else .ok (some text)
  | .scalar _ _ text => .ok (some text)
  | _ => .error .mismatched

def decodeWhole (root : Node) (limit : Nat) (n : Node) : Except Fault Nat :=
  match n.target root with
  | .scalar p style text =>
    if style = .plain ∨ (style = .literal ∧ p.tag = some integerTag) then
      match wholeNumber? text.toList with
      | some k => if k < limit then .ok k else .error .mismatched
      | none => .error .mismatched
    else .error .mismatched
  | _ => .error .mismatched

def decodeKeys (root : Node) : List (Node × Node) → Except Fault (List (String × Node))
  | [] => .ok []
  | (k, v) :: es => do
    let k ← decodeScalar root k
    let es ← decodeKeys root es
    return (k, v) :: es

/-- A mapping whose keys are scalars; nothing at all counts as one without entries. -/
def decodeEntries (forms : List (Field.Form Node)) (root n : Node) : Except Fault (Slots Node) :=
  match n.target root with
  | .mapping _ entries => do
    let members ← decodeKeys root entries
    Slots.ofMembers forms (fun _ => .ok ()) [] members
  | .scalar _ .plain "" => Slots.ofMembers forms (fun _ => .ok ()) [] []
  | _ => .error .mismatched

def yamlReader (root : Node) : Reader Node where
  slots := fun forms n => decodeEntries forms root n
  string := decodeScalar root
  option := decodeOptionalScalar root
  natural := decodeWhole root

def ofText? (text : String) : Option Config := do
  match ← Yaml.readDocument? text with
  | none => return default
  | some root => ((yamlReader root).config root).toOption

inductive FileFault where
  | missing
  | directory
  | notDirectory
  | nameTooLong
  | nul
deriving DecidableEq, Repr

def FileFault.message : FileFault → String
  | .missing => "No such file or directory (os error 2)"
  | .directory => "Is a directory (os error 21)"
  | .notDirectory => "Not a directory (os error 20)"
  | .nameTooLong => "File name too long (os error 36)"
  | .nul => "file name contained an unexpected NUL byte"

inductive FileError where
  | read (path : String) (fault : FileFault)
  | parse (path : String)
deriving DecidableEq, Repr

def FileError.message : FileError → String
  | .read path fault => "Failed to read config file " ++ path ++ ": " ++ fault.message
  | .parse _ => "Failed to parse config YAML"

def ofFile (path : String) (content : Except FileFault String) : Except FileError Config :=
  match content with
  | .error fault => .error (.read path fault)
  | .ok text =>
    match ofText? text with
    | some c => .ok c
    | none => .error (.parse path)

def load (path : String) (content : Except FileFault String) : Except Invalid Config :=
  let c := match ofFile path content with
    | .ok c => c
    | .error _ => default
  match c.invalid? with
  | some e => .error e
  | none => .ok c

def Invalid.report (e : Invalid) : String := "Configuration error: " ++ e.message

end SandboxTasks.Config
