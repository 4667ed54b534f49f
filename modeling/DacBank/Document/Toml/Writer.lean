import DacBank.Document.Toml.Quoting
import DacBank.Table
import DacBank.Text.Decimal

namespace DacBank.Document.Toml

open Text

def writeEntry (key : String) (value : List Char) : List Char :=
  key.toList ++ [' ', '=', ' '] ++ value ++ ['\n']

def writeDac (d : Dac) : List Char :=
  "[[dacs]]\n".toList ++
    writeEntry "name" (writeText d.name.toList) ++
    writeEntry "register" (natDigits d.register.raw.toNat) ++
    writeEntry "min" (intDigits d.min.toInt) ++
    writeEntry "max" (intDigits d.max.toInt) ++
    writeEntry "default" (intDigits d.default.toInt)

/-- A section for each DAC, with an empty line between them. -/
def writeDacs : List Dac → List Char
  | [] => []
  | [d] => writeDac d
  | d :: rest => writeDac d ++ '\n' :: writeDacs rest

def writeDetector (t : Table) : List Char :=
  match t.detector with
  | none => []
  | some name => writeEntry "detector" (writeText name.toList)

def write (t : Table) : String :=
  let dacs :=
    match t.detector, t.dacs with
    | _, [] => writeEntry "dacs" ['[', ']']
    | none, ds => writeDacs ds
    | some _, ds => '\n' :: writeDacs ds
  String.ofList (writeDetector t ++ dacs)

end DacBank.Document.Toml
