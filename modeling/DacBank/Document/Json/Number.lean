import DacBank.Document.Value

namespace DacBank.Document.Json

open Text Numeric

def limit64 : Nat :=
  Nat.pow 2 64

/-- Takes digits while the number they make stays below 2^64. -/
def leading : Nat → List Char → Nat × List Char
  | n, [] => (n, [])
  | n, d :: ds =>
    let n' := 10 * n + digitValue d
    if n' < limit64 then leading n' ds else (n, d :: ds)

/-- Scales rounded digits by a power of ten, rounding the power and the result. -/
def scaled (negative : Bool) (digits : Nat) (exponent : Int) : Option Binary64 :=
  let x := nearest64 (digits : Rat)
  if digits = 0 then some (.zero negative)
  else if 308 < exponent then none
  else if 0 ≤ exponent then
    match Binary64.ofMagnitude negative (x * nearest64 (tenPow exponent)) with
    | .finite s y => some (.finite s y)
    | _ => none
  else if -308 ≤ exponent then
    some (.finite negative (nearest64 (x / nearest64 (tenPow (-exponent)))))
  else
    let y := nearest64 (x / nearest64 (tenPow 308))
    if -616 ≤ exponent then
      some (.finite negative (nearest64 (y / nearest64 (tenPow (-exponent - 308)))))
    else some (.zero negative)

structure Parts where
  whole : List Char
  fraction : Option (List Char)
  exponent : Option Int

/-- An integer is read as one if 64 bits hold it. Any other number is the product or quotient of two
rounded numbers: its leading digits, and a power of ten. -/
def numberValue (negative : Bool) (p : Parts) : Option Value :=
  let (n, dropped) := leading 0 p.whole
  if dropped = [] ∧ p.fraction.isNone ∧ p.exponent.isNone then
    if negative ∧ (n = 0 ∨ Nat.pow 2 63 < n) then
      some (.float (.finite true (nearest64 (n : Rat))))
    else some (.integer (if negative then -(n : Int) else n))
  else
    let fraction := p.fraction.getD []
    let (digits, ignored) := leading n fraction
    let exponent : Int :=
      (dropped.length : Int) - ((fraction.length - ignored.length : Nat) : Int) +
        p.exponent.getD 0
    (scaled negative digits exponent).map .float

def digitRun (s : List Char) : List Char × List Char :=
  (s.takeWhile Char.isDigit, s.dropWhile Char.isDigit)

/-- A whole part has no zero in front of other digits. -/
def readWhole (s : List Char) : Option (List Char × List Char) :=
  match digitRun s with
  | ([], _) => none
  | ('0' :: _ :: _, _) => none
  | run => some run

def readFraction (s : List Char) : Option (Option (List Char) × List Char) :=
  match s with
  | '.' :: rest =>
    match digitRun rest with
    | ([], _) => none
    | (ds, rest) => some (some ds, rest)
  | s => some (none, s)

def readExponent (s : List Char) : Option (Option Int × List Char) :=
  match s with
  | [] => some (none, [])
  | c :: rest =>
    if c = 'e' ∨ c = 'E' then
      let (negative, rest) := readSign rest
      match digitRun rest with
      | ([], _) => none
      | (ds, rest) =>
        let n : Int := natOfDigits ds
        some (some (if negative then -n else n), rest)
    else some (none, s)

def readNumber (s : List Char) : Option (Value × List Char) := do
  let (negative, s) := match s with
    | '-' :: rest => (true, rest)
    | s => (false, s)
  let (whole, s) ← readWhole s
  let (fraction, s) ← readFraction s
  let (exponent, s) ← readExponent s
  let v ← numberValue negative ⟨whole, fraction, exponent⟩
  return (v, s)

end DacBank.Document.Json
