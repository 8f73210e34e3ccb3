import SandboxTasks.Json.Basic

namespace SandboxTasks.Json

def members : Json → List (String × Json)
  | .object ms => ms
  | _ => []

mutual

def merge (target : Json) : Json → Json
  | .object ps => .object (mergeMembers target.members ps)
  | p => p

def mergeMembers (ms : List (String × Json)) : List (String × Json) → List (String × Json)
  | [] => ms
  | (key, p) :: ps =>
    match p with
    | .null => mergeMembers (erase ms key) ps
    | p => mergeMembers (set ms key (merge ((find? ms key).getD .null) p)) ps

end

def removals (old new : List (String × Json)) : List (String × Json) :=
  (old.filter fun (key, _) => (find? new key).isNone).map fun (key, _) => (key, .null)

mutual

/-- The patch from one value to another; arrays are replaced as a whole. -/
def mergePatch (old : Json) : Json → Json
  | .object ns =>
    match old with
    | .object ms => .object (memberPatches ms ns ++ removals ms ns)
    | _ => .object ns
  | j => j

def memberPatches (old : List (String × Json)) : List (String × Json) → List (String × Json)
  | [] => []
  | (key, n) :: ns =>
    let patch := match find? old key with
      | some o => mergePatch o n
      | none => n
    (key, patch) :: memberPatches old ns

end

end SandboxTasks.Json
