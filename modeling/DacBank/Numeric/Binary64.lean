import DacBank.Numeric.Rounding
import DacBank.Text.Decimal

namespace DacBank.Numeric

/-- A finite double keeps its sign apart from its magnitude, so there are two zeros. -/
inductive Binary64 where
  | nan
  | infinite (negative : Bool)
  | finite (negative : Bool) (magnitude : Rat)
  deriving DecidableEq

/-- The power of ten with exponent `k`. -/
def tenPow : Int → Rat
  | .ofNat k => ((Nat.pow 10 k : Nat) : Rat)
  | .negSucc k => mkRat 1 (Nat.pow 10 (k + 1))

/-- The distance between neighbouring doubles at a magnitude. -/
def spacing (x : Rat) : Rat :=
  twoPow (max (binade x - 52) (-1074))

/-- The nearest double, were there no largest one. -/
def nearest64 (x : Rat) : Rat :=
  if x = 0 then 0 else roundTo (spacing x) x

namespace Binary64

def zero (negative : Bool) : Binary64 :=
  .finite negative 0

/-- The double nearest to a magnitude; from 2^1024 on there is none. -/
def ofMagnitude (negative : Bool) (x : Rat) : Binary64 :=
  if twoPow 1024 ≤ nearest64 x then .infinite negative else .finite negative (nearest64 x)

/-- The double nearest to `digits * 10^exponent`. Numbers that are plainly too large or too small
are told by their count of digits. -/
def ofDecimal (negative : Bool) (digits : Nat) (exponent : Int) : Binary64 :=
  let place : Int := (Text.natDigits digits).length + exponent
  if digits = 0 ∨ place < -330 then zero negative
  else if 310 < place then .infinite negative
  else ofMagnitude negative ((digits : Rat) * tenPow exponent)

def isFinite : Binary64 → Bool
  | .finite .. => true
  | _ => false

end Binary64

end DacBank.Numeric
