namespace DacBank.Text

def natDigits (n : Nat) : List Char :=
  Nat.toDigits 10 n

/-- The least number of digits, behind a minus sign if the number is negative. -/
def intDigits (n : Int) : List Char :=
  if n < 0 then '-' :: natDigits n.natAbs else natDigits n.natAbs

def decimal (n : Int) : String :=
  String.ofList (intDigits n)

def digitValue (c : Char) : Nat :=
  c.toNat - '0'.toNat

/-- Reads a run of digits; what it gives for other characters means nothing. -/
def natOfDigits (ds : List Char) : Nat :=
  ds.foldl (fun n c => 10 * n + digitValue c) 0

/-- Takes a sign, if there is one, and tells whether it is a minus. -/
def readSign : List Char → Bool × List Char
  | '-' :: rest => (true, rest)
  | '+' :: rest => (false, rest)
  | s => (false, s)

end DacBank.Text
