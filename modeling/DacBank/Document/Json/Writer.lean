import DacBank.Document.Value
import DacBank.Numeric.Shortest
import DacBank.Text.Hex

namespace DacBank.Document.Json

open Text Numeric

def writeChar (c : Char) : List Char :=
  match c with
  | '"' => ['\\', '"']
  | '\\' => ['\\', '\\']
  | '\x08' => ['\\', 'b']
  | '\x0c' => ['\\', 'f']
  | '\n' => ['\\', 'n']
  | '\r' => ['\\', 'r']
  | '\t' => ['\\', 't']
  | c => if c < ' ' then ['\\', 'u'] ++ fourHex lowerHex c.toNat else [c]

def writeText (s : String) : List Char :=
  '"' :: s.toList.flatMap writeChar ++ ['"']

def separated : List (List Char) → List Char
  | [] => []
  | [item] => item
  | item :: rest => item ++ ',' :: separated rest

mutual
def writeValue : Value → List Char
  | .null => ['n', 'u', 'l', 'l']
  | .boolean true => ['t', 'r', 'u', 'e']
  | .boolean false => ['f', 'a', 'l', 's', 'e']
  | .integer n => intDigits n
  | .float x => if x.isFinite then (x.write .json).toList else ['n', 'u', 'l', 'l']
  | .unreadable => ['n', 'u', 'l', 'l']
  | .text s => writeText s
  | .list items => '[' :: separated (writeItems items) ++ [']']
  | .table entries => '\x7b' :: separated (writeEntries entries) ++ ['\x7d']

def writeItems : List Value → List (List Char)
  | [] => []
  | v :: rest => writeValue v :: writeItems rest

def writeEntries : List (String × Value) → List (List Char)
  | [] => []
  | (key, v) :: rest => (writeText key ++ ':' :: writeValue v) :: writeEntries rest
end

def write (v : Value) : String :=
  String.ofList (writeValue v)

end DacBank.Document.Json
