namespace DacBank

/-- The entries stand row after row. -/
structure Matrix where
  rows : Nat
  cols : Nat
  entries : List Int32
  deriving DecidableEq

namespace Matrix

/-- Every row has an entry in every column, and there are no others. -/
def WellShaped (m : Matrix) : Prop :=
  m.entries.length = m.rows * m.cols

def row (m : Matrix) (i : Nat) : List Int32 :=
  (m.entries.drop (i * m.cols)).take m.cols

def toRows (m : Matrix) : List (List Int32) :=
  (List.range m.rows).map m.row

/-- Rows of `cols` values each, below each other. -/
def ofRows (cols : Nat) (rows : List (List Int32)) : Matrix :=
  ⟨rows.length, cols, rows.flatten⟩

end Matrix

end DacBank
