import DacBank.Document.Record
import DacBank.Document.Toml.Reader
import DacBank.Document.Toml.Writer

namespace DacBank

/-- What stands at a path. -/
inductive FileState where
  | missing
  | directory
  | file (bytes : ByteArray)

/-- Where a table is to be written. -/
inductive FileTarget where
  | file
  | directory
  | belowMissing
  deriving DecidableEq

namespace Table

/-- A number without a value is no fault of a field: the text is no document. -/
def textFault : Document.Fault → TextFault
  | .unreadableNumber => .grammar
  | fault => .field fault

def ofDocument (v : Document.Value) : Except TableError Table :=
  match Document.readTable .toml v with
  | .error fault => .error (.text (textFault fault))
  | .ok t =>
    match t.validate with
    | .error fault => .error (.table fault)
    | .ok () => .ok t

def ofText (s : String) : Except TableError Table :=
  match Document.Toml.read? s with
  | none => .error (.text .grammar)
  | some v => ofDocument v

def toText (t : Table) : String :=
  Document.Toml.write t

/-- A text is read as a document, the document as a table, and the table is validated; the first of
the three that fails tells why. -/
def load : FileState → Except TableError Table
  | .missing => .error (.file .notFound)
  | .directory => .error (.file .isDirectory)
  | .file bytes =>
    match String.fromUTF8? bytes with
    | none => .error (.file .notText)
    | some s => ofText s

/-- The text of the file after saving. -/
def save (t : Table) : FileTarget → Except TableError String
  | .file => .ok t.toText
  | .directory => .error (.file .isDirectory)
  | .belowMissing => .error (.file .notFound)

end Table

end DacBank
