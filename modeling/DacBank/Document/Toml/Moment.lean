import DacBank.Text.Decimal

namespace DacBank.Document.Toml

open Text

/-- Takes so many digits, whose number has to lie between two bounds. -/
def readField (digits low high : Nat) (s : List Char) : Option (Nat × List Char) :=
  let ds := s.take digits
  if ds.length = digits ∧ ds.all Char.isDigit then
    let n := natOfDigits ds
    if low ≤ n ∧ n ≤ high then some (n, s.drop digits) else none
  else none

def readMark (c : Char) (s : List Char) : Option (List Char) :=
  match s with
  | [] => none
  | d :: rest => if d = c then some rest else none

def isLeapYear (y : Nat) : Bool :=
  y % 4 == 0 && (y % 100 != 0 || y % 400 == 0)

def daysInMonth (y m : Nat) : Nat :=
  if m = 2 then (if isLeapYear y then 29 else 28)
  else if m = 4 ∨ m = 6 ∨ m = 9 ∨ m = 11 then 30
  else 31

def readDate (s : List Char) : Option (List Char) := do
  let (y, s) ← readField 4 0 9999 s
  let s ← readMark '-' s
  let (m, s) ← readField 2 1 12 s
  let s ← readMark '-' s
  let (_, s) ← readField 2 1 (daysInMonth y m) s
  return s

/-- The part of a second behind the point. -/
def readFraction (s : List Char) : Option (List Char) :=
  match s with
  | '.' :: rest =>
    if (rest.takeWhile Char.isDigit).isEmpty then none else some (rest.dropWhile Char.isDigit)
  | s => some s

def readHourMinute (s : List Char) : Option (List Char) := do
  let (_, s) ← readField 2 0 23 s
  let s ← readMark ':' s
  let (_, s) ← readField 2 0 59 s
  return s

/-- Seconds may be left out, and a minute may have a leap second. -/
def readTime (s : List Char) : Option (List Char) := do
  let s ← readHourMinute s
  match s with
  | ':' :: rest => do
    let (_, s) ← readField 2 0 60 rest
    readFraction s
  | s => return s

def isOffset (s : List Char) : Bool :=
  match s with
  | [] => true
  | [c] => c == 'Z' || c == 'z'
  | c :: rest => (c == '+' || c == '-') && readHourMinute rest == some []

/-- What follows a date: nothing, or a time behind one of three marks. -/
def isAfterDate (s : List Char) : Bool :=
  match s with
  | [] => true
  | c :: rest =>
    (c == 'T' || c == 't' || c == ' ') &&
      match readTime rest with
      | some offset => isOffset offset
      | none => false

def isMoment (s : List Char) : Bool :=
  match readDate s with
  | some rest => isAfterDate rest
  | none => readTime s == some []

end DacBank.Document.Toml
