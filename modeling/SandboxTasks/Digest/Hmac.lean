import SandboxTasks.Digest.Sha256

namespace SandboxTasks.Digest.Hmac

def block (key : List UInt8) : List UInt8 :=
  let key := if key.length > 64 then Sha256.hash key else key
  key ++ List.replicate (64 - key.length) 0

def tag (key message : List UInt8) : List UInt8 :=
  let key := block key
  Sha256.hash (key.map (· ^^^ 0x5c) ++ Sha256.hash (key.map (· ^^^ 0x36) ++ message))

@[simp] theorem tag_length (key message : List UInt8) : (tag key message).length = 32 := rfl

end SandboxTasks.Digest.Hmac
