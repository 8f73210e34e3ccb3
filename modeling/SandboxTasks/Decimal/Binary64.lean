namespace SandboxTasks.Decimal

/-- The number `significand · 2 ^ exponent`. The significand has 53 bits, unless the exponent is the least one. -/
structure Binary64 where
  significand : Nat
  exponent : Int
deriving DecidableEq, Repr, Inhabited

namespace Binary64

def leastExponent : Int := -1074

def greatestExponent : Int := 971

def zero : Binary64 := ⟨0, leastExponent⟩

def isZero (x : Binary64) : Bool := x.significand = 0

def scale (e : Int) : Nat × Nat := (Nat.pow 2 e.toNat, Nat.pow 2 (-e).toNat)

def roundQuotient (n d : Nat) : Nat :=
  let q := n / d
  let r := n % d
  if d < 2 * r ∨ (2 * r = d ∧ q % 2 = 1) then q + 1 else q

def exponentOf (n d : Nat) : Int :=
  let guess : Int := (Nat.log2 n : Int) - Nat.log2 d - 53
  let (up, down) := scale guess
  max leastExponent (if Nat.pow 2 53 * (d * up) ≤ n * down then guess + 1 else guess)

/-- The double nearest to a quotient, none if that is beyond their range. -/
def ofQuotient? (n d : Nat) : Option Binary64 :=
  if n = 0 then some zero
  else
    let e := exponentOf n d
    let (up, down) := scale e
    let m := roundQuotient (n * down) (d * up)
    let x := if m = Nat.pow 2 53 then ⟨Nat.pow 2 52, e + 1⟩ else ⟨m, e⟩
    if greatestExponent < x.exponent then none else some x

def ofNat? (n : Nat) : Option Binary64 := ofQuotient? n 1

def times? (x y : Binary64) : Option Binary64 :=
  let (up, down) := scale (x.exponent + y.exponent)
  ofQuotient? (x.significand * y.significand * up) down

def over? (x y : Binary64) : Option Binary64 :=
  let (up, down) := scale (x.exponent - y.exponent)
  ofQuotient? (x.significand * up) (y.significand * down)

end Binary64

end SandboxTasks.Decimal
