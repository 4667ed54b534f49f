namespace DacBank.Numeric

def twoPow : Int → Rat
  | .ofNat k => ((Nat.pow 2 k : Nat) : Rat)
  | .negSucc k => mkRat 1 (Nat.pow 2 (k + 1))

/-- The `k` with `2^k ≤ |x| < 2^(k+1)`, for `x` other than zero. -/
def binade (x : Rat) : Int :=
  let k : Int := (x.num.natAbs.log2 : Int) - (x.den.log2 : Int)
  if twoPow k ≤ x.abs then k else k - 1

/-- The nearest integer; a half goes to the even neighbour. -/
def roundHalfEven (x : Rat) : Int :=
  let below := x.floor
  let rest := x - (below : Rat)
  if rest < 1 / 2 then below
  else if 1 / 2 < rest then below + 1
  else if below % 2 = 0 then below
  else below + 1

/-- The nearest multiple of a unit. -/
def roundTo (unit x : Rat) : Rat :=
  (roundHalfEven (x / unit) : Rat) * unit

/-- The nearest number of 53 significant binary digits. A product, quotient or sum of two doubles,
away from the ends of the exponent range, is the exact result rounded this way. -/
def round53 (x : Rat) : Rat :=
  if x = 0 then 0 else roundTo (twoPow (binade x - 52)) x

/-- The integer part, toward zero. -/
def truncate (x : Rat) : Int :=
  x.num.tdiv (x.den : Int)

/-- The 32-bit word nearest to an integer. -/
def saturate (n : Int) : Int32 :=
  if n < Int32.minValue.toInt then Int32.minValue
  else if Int32.maxValue.toInt < n then Int32.maxValue
  else Int32.ofInt n

end DacBank.Numeric
