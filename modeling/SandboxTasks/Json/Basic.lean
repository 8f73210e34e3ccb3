import SandboxTasks.Decimal.Binary64

namespace SandboxTasks

/-- A JSON number: an integer of at most 64 bits, or the double that any other number is taken for. -/
inductive Json.Number where
  | integer (i : Int)
  | double (negative : Bool) (size : Decimal.Binary64)
deriving DecidableEq, Repr, Inhabited

inductive Json.Defect where
  | text
  | name
  | key
  | string
  | number
deriving DecidableEq, Repr

inductive Json where
  | null
  | bool (b : Bool)
  | number (n : Json.Number)
  | string (s : String)
  | array (xs : List Json)
  | object (ms : List (String × Json))
  | unreadable (d : Json.Defect)
deriving Inhabited, Repr

namespace Json

def nat (n : Nat) : Json := .number (.integer n)

def int (i : Int) : Json := .number (.integer i)

def ofFields (fields : List (String × Option Json)) : Json :=
  .object (fields.filterMap fun (k, v) => v.map fun v => (k, v))

def find? (ms : List (String × Json)) (key : String) : Option Json := (ms.find? (·.1 == key)).map (·.2)

def get? (j : Json) (key : String) : Option Json :=
  match j with
  | .object ms => find? ms key
  | _ => none

def text? : Json → Option String
  | .string s => some s
  | _ => none

/-- Sets a member, in place if there is one of that name. -/
def set (ms : List (String × Json)) (key : String) (value : Json) : List (String × Json) :=
  match ms with
  | [] => [(key, value)]
  | (k, v) :: ms => if k = key then (k, value) :: ms else (k, v) :: set ms key value

def erase (ms : List (String × Json)) (key : String) : List (String × Json) := ms.filter (·.1 != key)

mutual

def beq : Json → Json → Bool
  | .null, .null => true
  | .bool a, .bool b => a == b
  | .number a, .number b => a == b
  | .string a, .string b => a == b
  | .array xs, .array ys => beqElements xs ys
  | .object ms, .object ns => beqMembers ms ns
  | .unreadable d, .unreadable e => d == e
  | _, _ => false

def beqElements : List Json → List Json → Bool
  | [], [] => true
  | x :: xs, y :: ys => beq x y && beqElements xs ys
  | _, _ => false

def beqMembers : List (String × Json) → List (String × Json) → Bool
  | [], [] => true
  | (k, x) :: ms, (l, y) :: ns => k == l && beq x y && beqMembers ms ns
  | _, _ => false

end

instance : BEq Json := ⟨beq⟩

mutual

def isWellFormed : Json → Bool
  | .array xs => elementsWellFormed xs
  | .object ms => membersWellFormed ms
  | .unreadable .text => false
  | .unreadable .name => false
  | _ => true

def elementsWellFormed : List Json → Bool
  | [] => true
  | x :: xs => isWellFormed x && elementsWellFormed xs

def membersWellFormed : List (String × Json) → Bool
  | [] => true
  | (_, v) :: ms => isWellFormed v && membersWellFormed ms

end

mutual

def isWhole : Nat → Json → Bool
  | depth + 1, .array xs => elementsWhole depth xs
  | depth + 1, .object ms => membersWhole depth ms
  | 0, .array _ => false
  | 0, .object _ => false
  | _, .unreadable _ => false
  | _, _ => true

def elementsWhole : Nat → List Json → Bool
  | _, [] => true
  | depth, x :: xs => isWhole depth x && elementsWhole depth xs

def membersWhole : Nat → List (String × Json) → Bool
  | _, [] => true
  | depth, (_, v) :: ms => isWhole depth v && membersWhole depth ms

end

/-- Puts a member in its place by name; the last of two members of one name stays. -/
def insertSorted (key : String) (value : Json) : List (String × Json) → List (String × Json)
  | [] => [(key, value)]
  | (k, v) :: ms =>
    if k = key then (k, v) :: ms
    else if key < k then (key, value) :: (k, v) :: ms
    else (k, v) :: insertSorted key value ms

mutual

/-- Members sorted by name, the last of equal names kept, at every depth. -/
def sorted : Json → Json
  | .array xs => .array (sortedElements xs)
  | .object ms => .object (sortedMembers ms)
  | j => j

def sortedElements : List Json → List Json
  | [] => []
  | x :: xs => sorted x :: sortedElements xs

def sortedMembers : List (String × Json) → List (String × Json)
  | [] => []
  | (k, v) :: ms => insertSorted k (sorted v) (sortedMembers ms)

end

end Json

end SandboxTasks
