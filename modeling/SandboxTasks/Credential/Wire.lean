import SandboxTasks.Credential.Grant
import SandboxTasks.Json.Decode

namespace SandboxTasks.Grant

open Json

def credentialField := required "credential" decodeString
def expiresAtField := required "expiresAt" decodeInstant

def decode (j : Json) : Except Fault Grant := do
  let s ← j.slots [credentialField.form, expiresAtField.form]
  return ⟨← credentialField.read s, ← expiresAtField.read s⟩

def encode (g : Grant) : Json := ofFields [
  ("credential", some (.string g.credential)),
  ("expiresAt", some (instant g.expiresAt))]

end SandboxTasks.Grant
