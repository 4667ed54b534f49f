import DacBank.Proofs.Document.Toml.Document
import DacBank.Table.File

namespace DacBank.Table

/-- The text of a table is read back as this table, with its DACs in their order, if the table is
valid. A text of any other table is refused for what is wrong with the table. -/
theorem ofText_toText (t : Table) :
    ofText t.toText =
      match t.validate with
      | .ok () => .ok t
      | .error fault => .error (.table fault) := by
  rw [toText, ofText, Document.Toml.read?_write]
  simp only [ofDocument, Document.readTable_writeTable]
  cases t.validate with
  | ok u => rfl
  | error fault => rfl

end DacBank.Table
