namespace DacBank.Text

def lowerHex (n : Nat) : Char :=
  Nat.digitChar n

def upperHex (n : Nat) : Char :=
  if n < 10 then Nat.digitChar n else Char.ofNat ('A'.toNat + (n - 10))

/-- The four digits of a number below 2^16. -/
def fourHex (digit : Nat → Char) (n : Nat) : List Char :=
  [digit (n / 4096 % 16), digit (n / 256 % 16), digit (n / 16 % 16), digit (n % 16)]

def hexValue? (c : Char) : Option Nat :=
  if '0' ≤ c ∧ c ≤ '9' then some (c.toNat - '0'.toNat)
  else if 'a' ≤ c ∧ c ≤ 'f' then some (c.toNat - 'a'.toNat + 10)
  else if 'A' ≤ c ∧ c ≤ 'F' then some (c.toNat - 'A'.toNat + 10)
  else none

/-- Takes so many digits; `n` is what the digits before them made. -/
def readHexFrom (n : Nat) : Nat → List Char → Option (Nat × List Char)
  | 0, s => some (n, s)
  | _ + 1, [] => none
  | k + 1, c :: s =>
    match hexValue? c with
    | some d => readHexFrom (16 * n + d) k s
    | none => none

def readHex (k : Nat) (s : List Char) : Option (Nat × List Char) :=
  readHexFrom 0 k s

/-- The character of a number, unless it is a surrogate or too large. -/
def charOf? (n : Nat) : Option Char :=
  if n.isValidChar then some (Char.ofNat n) else none

/-- Takes so many digits as the number of a character. -/
def readHexChar (k : Nat) (s : List Char) : Option (Char × List Char) :=
  match readHex k s with
  | none => none
  | some (n, rest) =>
    match charOf? n with
    | none => none
    | some c => some (c, rest)

end DacBank.Text
