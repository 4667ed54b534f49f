import DacBank.Text.Decimal

namespace DacBank.Row

def nameWidth : Nat := 15
def valueWidth : Nat := 5

def padRight (width : Nat) (s : List Char) : List Char :=
  s ++ List.replicate (width - s.length) ' '

def padLeft (width : Nat) (s : List Char) : List Char :=
  List.replicate (width - s.length) ' ' ++ s

def cell (value : Int32) : List Char :=
  padLeft valueWidth (Text.intDigits value.toInt)

def cells (values : List Int32) : List Char :=
  values.flatMap cell

def nameColumn (name : String) : List Char :=
  padRight nameWidth name.toList ++ [':']

/-- A name or value that is too long for its column is written whole. -/
def format (name : String) (values : List Int32) : String :=
  String.ofList (nameColumn name ++ cells values)

/-- The line above the rows of a bank. -/
def header : String := "========== DACS ========="

end DacBank.Row
