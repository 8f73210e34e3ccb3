namespace SandboxTasks

structure Repository where
  url : String
  revision : String
deriving DecidableEq, Repr

namespace Repository

def isSeparator (c : Char) : Bool := c == '/' || c == ':'

def dropSuffixes : List Char → List Char
  | 't' :: 'i' :: 'g' :: '.' :: cs => dropSuffixes cs
  | cs => cs

/-- Owner and name, the last two parts of a URL between slashes and colons, without slashes and `.git` at its
end. Neither may be empty. -/
def slugOf? (url : List Char) : Option (List Char × List Char) :=
  let parts := dropSuffixes (url.reverse.dropWhile (· == '/'))
  let name := parts.takeWhile (!isSeparator ·)
  match parts.dropWhile (!isSeparator ·) with
  | [] => none
  | _ :: rest =>
    let owner := rest.takeWhile (!isSeparator ·)
    if name.isEmpty || owner.isEmpty then none else some (owner.reverse, name.reverse)

structure Slug where
  owner : String
  name : String
deriving DecidableEq, Repr

def slug? (r : Repository) : Option Slug := (slugOf? r.url.toList).map fun (o, n) => ⟨String.ofList o, String.ofList n⟩

end Repository

end SandboxTasks
