import DacBank.Numeric.Binary64

namespace DacBank.Numeric

/-- A decimal: `digits * 10^exponent`. -/
structure Scientific where
  digits : Nat
  exponent : Int
  deriving DecidableEq

/-- How a format writes floats. -/
structure FloatStyle where
  /-- Of two decimals equally near, the larger one is written, and not the even one. -/
  tiesUp : Bool
  /-- Whether the point is written in its place when the number is `0.d₁d₂… * 10^place`. -/
  positional : Int → Bool

/-- Positional from a hundred-thousandth up to 16 digits. -/
def FloatStyle.json : FloatStyle where
  tiesUp := false
  positional place := -5 < place && place ≤ 16

/-- Positional at any size. -/
def FloatStyle.toml : FloatStyle where
  tiesUp := true
  positional _ := true

/-- The `k` with `10^k ≤ x < 10^(k+1)`, for `x` above zero. -/
def decade (x : Rat) : Int :=
  let k : Int :=
    ((Text.natDigits x.num.natAbs).length : Int) - ((Text.natDigits x.den).length : Int)
  if tenPow k ≤ x then k else k - 1

/-- Whether `y` rounds to the double `x`. The interval below a power of two is half as long, and its
ends belong to doubles with an even last digit. -/
def readsBackAs (x y : Rat) : Bool :=
  let unit := spacing x
  let below := if x = twoPow (binade x) ∧ twoPow (-1074) < unit then unit / 2 else unit
  let low := x - below / 2
  let high := x + unit / 2
  if (x / unit).num % 2 = 0 then low ≤ y && y ≤ high else low < y && y < high

/-- A decimal of at most `n` digits that reads back as `x`, if there is one. -/
def decimalOf (style : FloatStyle) (x : Rat) (n : Nat) : Option Scientific :=
  let exponent := decade x - (n : Int) + 1
  let unit := tenPow exponent
  let down := (x / unit).floor
  let up := down + 1
  let lower : Scientific := ⟨down.toNat, exponent⟩
  let upper : Scientific := ⟨up.toNat, exponent⟩
  match readsBackAs x ((down : Rat) * unit), readsBackAs x ((up : Rat) * unit) with
  | true, true =>
    let lowerGap := x - (down : Rat) * unit
    let upperGap := (up : Rat) * unit - x
    if lowerGap < upperGap then some lower
    else if upperGap < lowerGap then some upper
    else if style.tiesUp then some upper
    else if down % 2 = 0 then some lower
    else some upper
  | true, false => some lower
  | false, true => some upper
  | false, false => none

/-- For each number of digits the two neighbours of `x` on that decimal grid are tried; the first
grid with a point in the interval of numbers that round to `x` gives the digits. -/
def shortestFrom (style : FloatStyle) (x : Rat) : Nat → Nat → Scientific
  | _, 0 => ⟨0, 0⟩
  | n, tries + 1 => (decimalOf style x n).getD (shortestFrom style x (n + 1) tries)

/-- The digits without the zeros at their end. -/
def dropZeros (s : Scientific) : Scientific :=
  let ds := (Text.natDigits s.digits).reverse
  let zeros := (ds.takeWhile (· == '0')).length
  ⟨Text.natOfDigits (ds.drop zeros).reverse, s.exponent + zeros⟩

/-- Seventeen digits always read back. -/
def shortest (style : FloatStyle) (x : Rat) : Scientific :=
  dropZeros (shortestFrom style x 1 17)

def zeros (n : Nat) : List Char :=
  List.replicate n '0'

def writePositional (ds : List Char) (place : Int) : List Char :=
  if place ≤ 0 then ['0', '.'] ++ zeros (-place).toNat ++ ds
  else
    let whole := place.toNat
    let fraction := ds.drop whole
    ds.take whole ++ zeros (whole - ds.length) ++ ['.'] ++
      (if fraction.isEmpty then ['0'] else fraction)

/-- The exponent has a sign in any case. -/
def writeExponent (ds : List Char) (place : Int) : List Char :=
  let fraction := ds.drop 1
  let exponent := place - 1
  ds.take 1 ++ (if fraction.isEmpty then [] else '.' :: fraction) ++
    ['e', if exponent < 0 then '-' else '+'] ++ Text.natDigits exponent.natAbs

def writeMagnitude (style : FloatStyle) (x : Rat) : List Char :=
  if x = 0 then ['0', '.', '0']
  else
    let s := shortest style x
    let ds := Text.natDigits s.digits
    let place := s.exponent + (ds.length : Int)
    if style.positional place then writePositional ds place else writeExponent ds place

def signed (negative : Bool) (text : List Char) : List Char :=
  if negative then '-' :: text else text

/-- The text of a double in a format. -/
def Binary64.write (style : FloatStyle) : Binary64 → String
  | .nan => "NaN"
  | .infinite negative => String.ofList (signed negative ['i', 'n', 'f'])
  | .finite negative magnitude =>
    String.ofList (signed negative (writeMagnitude style magnitude))

end DacBank.Numeric
