import DacBank.Text.Unseen
import DacBank.Text.Decimal

namespace DacBank.Text

def hexDigits (n : Nat) : List Char :=
  Nat.toDigits 16 n

/-- What leaves no mark of its own is written as its code point, in braces. -/
def shown (c : Char) : List Char :=
  match c with
  | '"' => ['\\', '"']
  | '\\' => ['\\', '\\']
  | '\n' => ['\\', 'n']
  | '\r' => ['\\', 'r']
  | '\t' => ['\\', 't']
  | '\x00' => ['\\', '0']
  | c =>
    if ' ' ≤ c && c ≤ '~' then [c]
    else if isUnseen c then ['\\', 'u', '\x7b'] ++ hexDigits c.toNat ++ ['\x7d']
    else [c]

def quoted (s : String) : String :=
  String.ofList ('"' :: s.toList.flatMap shown ++ ['"'])

def bracketed (items : List String) : String :=
  "[" ++ String.intercalate ", " items ++ "]"

def natList (ns : List Nat) : String :=
  bracketed (ns.map fun (n : Nat) => decimal n)

def int32List (ns : List Int32) : String :=
  bracketed (ns.map fun n => decimal n.toInt)

end DacBank.Text
