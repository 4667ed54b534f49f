import DacBank.Document.Field
import DacBank.Converter
import DacBank.Table

namespace DacBank.Document

def checkDacField (f : Format) (key : String) (v : Value) : Option (Except Fault Unit) :=
  if key = "name" then some (discard (readText f v))
  else if key = "register" then some (discard (readRegister f v))
  else if key = "min" ∨ key = "max" ∨ key = "default" then some (discard (readWord32 f v))
  else none

/-- A record is a table with an entry for each field, or a list with the fields in their order.
Entries that no field asks for are passed over. -/
def readDac (f : Format) (v : Value) : Except Fault Dac :=
  match v with
  | .table entries => do
    let entries := Entries.sorted entries
    checkEntries (checkDacField f) entries
    let name ← field entries "name" (readText f)
    let register ← field entries "register" (readRegister f)
    let min ← field entries "min" (readWord32 f)
    let max ← field entries "max" (readWord32 f)
    let default ← field entries "default" (readWord32 f)
    return ⟨name, register, min, max, default⟩
  | .list items => do
    let name ← item .dac items 0 (readText f)
    let register ← item .dac items 1 (readRegister f)
    let min ← item .dac items 2 (readWord32 f)
    let max ← item .dac items 3 (readWord32 f)
    let default ← item .dac items 4 (readWord32 f)
    checkSurplus f .dac items
    return ⟨name, register, min, max, default⟩
  | v => .error (typeFault f v (.record .dac))

def writeRegister (r : Register) : Value :=
  .integer r.raw.toNat

def writeWord32 (n : Int32) : Value :=
  .integer n.toInt

def writeDac (d : Dac) : Value :=
  .table [("name", .text d.name), ("register", writeRegister d.register),
    ("min", writeWord32 d.min), ("max", writeWord32 d.max), ("default", writeWord32 d.default)]

def checkConverterField (f : Format) (key : String) (v : Value) : Option (Except Fault Unit) :=
  if key = "min_mv" ∨ key = "max_mv" ∨ key = "steps" then some (discard (readWord32 f v)) else none

def readConverter (f : Format) (v : Value) : Except Fault Converter :=
  match v with
  | .table entries => do
    let entries := Entries.sorted entries
    checkEntries (checkConverterField f) entries
    let low ← field entries "min_mv" (readWord32 f)
    let high ← field entries "max_mv" (readWord32 f)
    let steps ← field entries "steps" (readWord32 f)
    return ⟨low, high, steps⟩
  | .list items => do
    let low ← item .converter items 0 (readWord32 f)
    let high ← item .converter items 1 (readWord32 f)
    let steps ← item .converter items 2 (readWord32 f)
    checkSurplus f .converter items
    return ⟨low, high, steps⟩
  | v => .error (typeFault f v (.record .converter))

def writeConverter (c : Converter) : Value :=
  .table [("min_mv", writeWord32 c.lowMillivolt), ("max_mv", writeWord32 c.highMillivolt),
    ("steps", writeWord32 c.steps)]

/-- A choice is its name, or a table of one entry from its name to nothing. -/
def readUnit (f : Format) (v : Value) : Except Fault MeasureUnit :=
  match v with
  | .text name => ofName name
  | .table entries =>
    match Entries.sorted entries with
    | [(name, content)] => do
      let unit ← ofName name
      match content with
      | .null => return unit
      | content => .error (typeFault f content .nothing)
    | _ => .error (.invalidValue .map .singleEntry)
  | v => .error (typeFault f v .choice)
where
  ofName (name : String) : Except Fault MeasureUnit :=
    if name = MeasureUnit.raw.name then .ok .raw
    else if name = MeasureUnit.millivolt.name then .ok .millivolt
    else .error (.unknownChoice name)

def writeUnit (u : MeasureUnit) : Value :=
  .text u.name

def readDacList (f : Format) (v : Value) : Except Fault (List Dac) :=
  match v with
  | .list items => items.mapM (readDac f)
  | v => .error (typeFault f v .sequence)

def checkTableField (f : Format) (key : String) (v : Value) : Option (Except Fault Unit) :=
  if key = "detector" then some (discard (readOptionalText f v))
  else if key = "dacs" then some (discard (readDacList f v))
  else none

/-- A detector that is not named is none. -/
def readDetector (f : Format) : Option Value → Except Fault (Option String)
  | none => .ok none
  | some v => readOptionalText f v

def readTable (f : Format) (v : Value) : Except Fault Table :=
  match v with
  | .table entries => do
    let entries := Entries.sorted entries
    checkEntries (checkTableField f) entries
    let detector ← readDetector f (Entries.get? "detector" entries)
    let dacs ← field entries "dacs" (readDacList f)
    return ⟨detector, dacs⟩
  | .list items => do
    let detector ← readDetector f items[0]?
    let dacs ← item .table items 1 (readDacList f)
    checkSurplus f .table items
    return ⟨detector, dacs⟩
  | v => .error (typeFault f v (.record .table))

def writeTable (t : Table) : Value :=
  .table ((match t.detector with
    | some name => [("detector", .text name)]
    | none => []) ++ [("dacs", .list (t.dacs.map writeDac))])

end DacBank.Document
