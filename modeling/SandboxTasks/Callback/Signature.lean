import SandboxTasks.Digest.Hmac
import SandboxTasks.Text.Hex

namespace SandboxTasks.Callback.Signature

def header : String := "x-signature-256"

def scheme : List Char := "sha256=".toList

def sign (secret body : List UInt8) : List Char := scheme ++ Text.Hex.encode (Digest.Hmac.tag secret body)

def digits? : List Char → List Char → Option (List Char)
  | [], cs => some cs
  | _ :: _, [] => none
  | p :: ps, c :: cs => if p = c then digits? ps cs else none

/-- The signature names the scheme and holds the digest of the body, in digits of either case. -/
def verify (secret body : List UInt8) (signature : List Char) : Bool :=
  match digits? scheme signature with
  | none => false
  | some digits => Text.Hex.decode digits == some (Digest.Hmac.tag secret body)

theorem digits?_append (ps cs : List Char) : digits? ps (ps ++ cs) = some cs := by
  induction ps with
  | nil => rfl
  | cons p ps ih => simp [digits?, ih]

end SandboxTasks.Callback.Signature
