import SandboxTasks.Time.Duration

namespace SandboxTasks.Callback

structure RetryPolicy where
  maxAttempts : Nat
  initialBackoff : Duration
  requestTimeout : Duration
deriving DecidableEq, Repr

namespace RetryPolicy

def default : RetryPolicy := ⟨3, .ofSeconds 1, .ofSeconds 10⟩

/-- The wait after an attempt, counted from one: it doubles from one to the next, sixteen times at most. -/
def delayAfter (p : RetryPolicy) (attempt : Nat) : Duration := p.initialBackoff.scale (Nat.pow 2 (min (attempt - 1) 16))

end RetryPolicy

end SandboxTasks.Callback
