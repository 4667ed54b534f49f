import DacBank.Document.Value
import DacBank.Document.Fault
import DacBank.Numeric.Shortest
import DacBank.Channel

namespace DacBank.Document

/-- What sets apart the formats of documents: how they write floats, and whether a list with more
items than a record has fields is refused. -/
structure Format where
  floats : Numeric.FloatStyle
  refusesSurplus : Bool

def Format.json : Format :=
  ⟨.json, true⟩

def Format.toml : Format :=
  ⟨.toml, false⟩

/-- Integers beyond 64 bits are told apart, for they do not pass as integers. -/
def foundInteger (n : Int) : Found :=
  if -Int.ofNat (Nat.pow 2 63) ≤ n ∧ n < Int.ofNat (Nat.pow 2 64) then .integer n
  else .wideInteger n

def typeFault (f : Format) (v : Value) (wanted : Wanted) : Fault :=
  match v with
  | .null => .invalidType .null wanted
  | .boolean b => .invalidType (.boolean b) wanted
  | .integer n => .invalidType (foundInteger n) wanted
  | .float x => .invalidType (.float (x.write f.floats)) wanted
  | .unreadable => .unreadableNumber
  | .text s => .invalidType (.text s) wanted
  | .list _ => .invalidType .sequence wanted
  | .table _ => .invalidType .map wanted

def readText (f : Format) (v : Value) : Except Fault String :=
  match v with
  | .text s => .ok s
  | v => .error (typeFault f v .text)

def readOptionalText (f : Format) (v : Value) : Except Fault (Option String) :=
  match v with
  | .null => .ok none
  | v => (readText f v).map some

/-- An integer between two bounds; one that no 64-bit type holds is of another type. -/
def readBounded (f : Format) (wanted : Wanted) (low high : Int) (v : Value) : Except Fault Int :=
  match v with
  | .integer n =>
    if low ≤ n ∧ n ≤ high then .ok n
    else
      match foundInteger n with
      | .integer n => .error (.invalidValue (.integer n) wanted)
      | found => .error (.invalidType found wanted)
  | v => .error (typeFault f v wanted)

def readWord32 (f : Format) (v : Value) : Except Fault Int32 :=
  (readBounded f .word32 Int32.minValue.toInt Int32.maxValue.toInt v).map Int32.ofInt

def readRegister (f : Format) (v : Value) : Except Fault Register :=
  (readBounded f .word16 0 65535 v).map fun n => ⟨UInt16.ofNat n.toNat⟩

/-- Looks at the entries in their order and tells the first fault. An entry that no field asks for
is passed over, unless it holds a number without a value. -/
def checkEntries (check : String → Value → Option (Except Fault Unit)) :
    Entries → Except Fault Unit
  | [] => .ok ()
  | (key, v) :: rest =>
    match check key v with
    | some (.error fault) => .error fault
    | some (.ok ()) => checkEntries check rest
    | none => if v.hasUnreadable then .error .unreadableNumber else checkEntries check rest

/-- A field that is missing is told when all others are well. -/
def field {α : Type} (entries : Entries) (key : String) (read : Value → Except Fault α) :
    Except Fault α :=
  match Entries.get? key entries with
  | none => .error (.missingField key)
  | some v => read v

/-- The item of a list at a place, which the record of this kind has a field for. -/
def item {α : Type} (kind : RecordKind) (items : List Value) (i : Nat)
    (read : Value → Except Fault α) : Except Fault α :=
  match items[i]? with
  | none => .error (.tooShort i kind)
  | some v => read v

def checkSurplus (f : Format) (kind : RecordKind) (items : List Value) : Except Fault Unit :=
  if f.refusesSurplus ∧ kind.size < items.length then .error (.tooLong items.length) else .ok ()

def discard {α : Type} (r : Except Fault α) : Except Fault Unit :=
  r.map fun _ => ()

end DacBank.Document
