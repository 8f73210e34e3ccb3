namespace SandboxTasks.TaskId

def labelLimit : Nat := 63

def claimMark : String := "sbx-"

def limit : Nat := labelLimit - claimMark.utf8ByteSize

/-- The claim of a task. One task has one name, so asking for its claim twice finds the same one. -/
def claimName (id : String) : String := claimMark ++ id

def isLetterOrDigit (c : Char) : Bool := ('a' ≤ c && c ≤ 'z') || ('0' ≤ c && c ≤ '9')

def isLabelChar (c : Char) : Bool := isLetterOrDigit c || c == '-'

def isLabel (cs : List Char) : Bool :=
  match cs.head?, cs.getLast? with
  | some a, some z => cs.all isLabelChar && isLetterOrDigit a && isLetterOrDigit z
  | _, _ => false

inductive Fault where
  | empty
  | long (id : String)
  | form (id : String)
deriving DecidableEq, Repr

def Fault.message : Fault → String
  | .empty => "task ID must not be empty"
  | .long id => "task ID '" ++ id ++ "' exceeds " ++ toString limit ++ " characters"
  | .form id =>
    "task ID '" ++ id ++ "' must consist of lowercase alphanumerics and '-', starting and ending with an alphanumeric"

def fault? (id : String) : Option Fault :=
  if id = "" then some .empty
  else if id.utf8ByteSize > limit then some (.long id)
  else if !isLabel id.toList then some (.form id)
  else none

def hexDigits : Nat → Nat → List Char
  | 0, _ => []
  | width + 1, n => hexDigits width (n / 16) ++ [Nat.digitChar (n % 16)]

/-- An ID made of 122 random bits, laid out as a random UUID. -/
def ofEntropy (bits : Nat) : String :=
  let field width shift := hexDigits width (bits / Nat.pow 2 shift)
  String.ofList ("task-".toList ++ field 8 90 ++ '-' :: field 4 74 ++ '-' :: '4' :: field 3 62 ++
    '-' :: Nat.digitChar (8 + bits / Nat.pow 2 60 % 4) :: field 3 48 ++ '-' :: field 12 0)

end SandboxTasks.TaskId
