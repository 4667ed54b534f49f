import DacBank.Document.Json.Number
import DacBank.Text.Hex
import DacBank.Text.Reader

namespace DacBank.Document.Json

open Text

def simpleEscape? : Char → Option Char
  | '"' => some '"'
  | '\\' => some '\\'
  | '/' => some '/'
  | 'b' => some '\x08'
  | 'f' => some '\x0c'
  | 'n' => some '\n'
  | 'r' => some '\r'
  | 't' => some '\t'
  | _ => none

/-- A character beyond 16 bits is escaped as a pair: its upper ten bits, and its lower ten. -/
def readPair (high : Nat) (s : List Char) : Option (Char × List Char) :=
  match s with
  | '\\' :: 'u' :: rest =>
    match readHex 4 rest with
    | none => none
    | some (low, rest) =>
      if 0xDC00 ≤ low ∧ low < 0xE000 then
        some (Char.ofNat (0x10000 + (high - 0xD800) * 0x400 + (low - 0xDC00)), rest)
      else none
  | _ => none

/-- One character between quotes. -/
def readChar (s : List Char) : Option (Char × List Char) :=
  match s with
  | '\\' :: 'u' :: rest =>
    match readHex 4 rest with
    | none => none
    | some (n, rest) =>
      if 0xD800 ≤ n ∧ n < 0xDC00 then readPair n rest
      else (charOf? n).map fun c => (c, rest)
  | '\\' :: e :: rest => (simpleEscape? e).map fun c => (c, rest)
  | c :: rest => if c < ' ' ∨ c = '"' ∨ c = '\\' then none else some (c, rest)
  | [] => none

/-- The characters up to the closing quote, and the text behind it. -/
def readText (s : List Char) : Option (String × List Char) :=
  match Reader.many readChar s with
  | (cs, '"' :: rest) => some (String.ofList cs, rest)
  | _ => none

def skipBlanks (s : List Char) : List Char :=
  s.dropWhile fun c => c = ' ' || c = '\n' || c = '\r' || c = '\t'

def readEntry (value : Reader Value) (s : List Char) : Option ((String × Value) × List Char) :=
  match s with
  | '"' :: rest => do
    let (key, rest) ← readText rest
    match skipBlanks rest with
    | ':' :: rest => do
      let (v, rest) ← value (skipBlanks rest)
      return ((key, v), rest)
    | _ => none
  | _ => none

/-- Values with at most this many lists and tables inside each other. -/
def readValue : Nat → Reader Value
  | 0, _ => none
  | depth + 1, s =>
    match s with
    | 'n' :: rest => (Reader.word ['u', 'l', 'l'] rest).map fun rest => (.null, rest)
    | 't' :: rest => (Reader.word ['r', 'u', 'e'] rest).map fun rest => (.boolean true, rest)
    | 'f' :: rest => (Reader.word ['a', 'l', 's', 'e'] rest).map fun rest => (.boolean false, rest)
    | '"' :: rest => (readText rest).map fun (t, rest) => (.text t, rest)
    | '[' :: rest =>
      (Reader.listed ⟨']', false⟩ skipBlanks (readValue depth) rest).map fun (vs, rest) =>
        (.list vs, rest)
    | '\x7b' :: rest =>
      (Reader.listed ⟨'\x7d', false⟩ skipBlanks (readEntry (readValue depth)) rest).map
        fun (es, rest) => (.table es, rest)
    | s => readNumber s

def nestingLimit : Nat := 128

def read? (s : String) : Option Value :=
  match readValue nestingLimit (skipBlanks s.toList) with
  | some (v, rest) => if (skipBlanks rest).isEmpty then some v else none
  | none => none

end DacBank.Document.Json
