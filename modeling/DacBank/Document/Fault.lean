import DacBank.Text.Quoted

namespace DacBank.Document

/-- What stands where something else was wanted. A float brings its own text, since each format of
documents writes floats its own way. -/
inductive Found where
  | null
  | boolean (b : Bool)
  | integer (n : Int)
  | wideInteger (n : Int)
  | float (digits : String)
  | text (s : String)
  | sequence
  | map
  deriving DecidableEq

inductive RecordKind where
  | dac
  | converter
  | table
  deriving DecidableEq

inductive Wanted where
  | text
  | word32
  | word16
  | sequence
  | record (kind : RecordKind)
  | nothing
  | choice
  | singleEntry
  deriving DecidableEq

inductive Fault where
  | invalidType (found : Found) (wanted : Wanted)
  | invalidValue (found : Found) (wanted : Wanted)
  | missingField (name : String)
  | tooShort (length : Nat) (kind : RecordKind)
  | tooLong (length : Nat)
  | unknownChoice (name : String)
  | unreadableNumber
  deriving DecidableEq

/-- A number beyond 64 bits is told with the 128-bit type that holds it. -/
def wideTypeName (n : Int) : String :=
  if n < Int.ofNat (Nat.pow 2 127) then "i128" else "u128"

def Found.message : Found → String
  | .null => "null"
  | .boolean true => "boolean `true`"
  | .boolean false => "boolean `false`"
  | .integer n => "integer `" ++ Text.decimal n ++ "`"
  | .wideInteger n => "integer `" ++ Text.decimal n ++ "` as " ++ wideTypeName n
  | .float digits => "floating point `" ++ digits ++ "`"
  | .text s => "string " ++ Text.quoted s
  | .sequence => "sequence"
  | .map => "map"

def RecordKind.name : RecordKind → String
  | .dac => "DacDescriptor"
  | .converter => "DacConverter"
  | .table => "DacTableConfig"

def RecordKind.size : RecordKind → Nat
  | .dac => 5
  | .converter => 3
  | .table => 2

def Wanted.message : Wanted → String
  | .text => "a string"
  | .word32 => "i32"
  | .word16 => "u16"
  | .sequence => "a sequence"
  | .record kind => "struct " ++ kind.name
  | .nothing => "unit"
  | .choice => "string or map"
  | .singleEntry => "map with a single key"

def Fault.message : Fault → String
  | .invalidType found wanted => s!"invalid type: {found.message}, expected {wanted.message}"
  | .invalidValue found wanted => s!"invalid value: {found.message}, expected {wanted.message}"
  | .missingField name => "missing field `" ++ name ++ "`"
  | .tooShort length kind =>
    s!"invalid length {length}, expected struct {kind.name} with {kind.size} elements"
  | .tooLong length => s!"invalid length {length}, expected fewer elements in array"
  | .unknownChoice name => "unknown variant `" ++ name ++ "`, expected `Raw` or `Millivolt`"
  | .unreadableNumber => "a number that no type holds"

end DacBank.Document
