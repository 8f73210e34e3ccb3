import SandboxTasks.Decimal.Binary64

namespace SandboxTasks.Decimal

structure Scientific where
  digits : Nat
  exponent : Int
deriving DecidableEq, Repr

namespace Binary64

/-- How far the numbers that round to a double reach down and up from it, in quarters of its last place. -/
def reach (x : Binary64) : Nat × Nat :=
  if x.significand = Nat.pow 2 52 ∧ leastExponent < x.exponent then (1, 2) else (2, 2)

/-- A factor that makes every double other than zero a number of many digits. -/
def spread : Nat := 400

def magnitude (x : Binary64) : Int :=
  let (up, down) := scale x.exponent
  ((Nat.repr (x.significand * up * Nat.pow 10 spread / down)).length : Int) - 1 - spread

/-- Of the two neighbours in units of the exponent, the nearer one that rounds to the double. -/
def neighbour? (x : Binary64) (exponent : Int) : Option Nat :=
  let (up, down) := scale x.exponent
  let unit := up * Nat.pow 10 (-exponent).toNat
  let step := down * Nat.pow 10 exponent.toNat
  let low := x.significand * unit / step
  let rounds (c : Nat) : Bool :=
    let least := (4 * x.significand - x.reach.1) * unit
    let most := (4 * x.significand + x.reach.2) * unit
    let place := 4 * c * step
    (least < place && place < most) || (x.significand % 2 = 0 && (least = place || place = most))
  let nearest := roundQuotient (x.significand * unit) step
  if rounds nearest then some nearest
  else if rounds low then some low
  else if rounds (low + 1) then some (low + 1)
  else none

def shortest (x : Binary64) : Scientific :=
  let found := (List.range 17).findSome? fun (k : Nat) =>
    (x.neighbour? (x.magnitude - k)).map fun c => (⟨c, x.magnitude - k⟩ : Scientific)
  match found with
  | some s => if s.digits = 10 then ⟨1, s.exponent + 1⟩ else s
  | none => ⟨0, 0⟩

end Binary64

end SandboxTasks.Decimal
