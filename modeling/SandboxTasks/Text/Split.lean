namespace SandboxTasks.Text

variable {α : Type}

def splitOn (p : α → Bool) : List α → List (List α)
  | [] => [[]]
  | a :: as =>
    match splitOn p as with
    | part :: parts => if p a then [] :: part :: parts else (a :: part) :: parts
    | [] => [[a]]

end SandboxTasks.Text
