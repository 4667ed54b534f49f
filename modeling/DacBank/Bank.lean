import DacBank.Dac.Access
import DacBank.Matrix
import DacBank.Mythen3
import DacBank.NameIndex
import DacBank.Table

namespace DacBank

/-- The DACs of a detector in the order of their registration, with the place of each name.
Registers may be shared. What is done to a whole bank is done DAC by DAC in that order and stops at
the first error, with the earlier DACs changed. -/
structure Bank where
  dacs : List Dac
  index : NameIndex
  indexed : index.Tells (dacs.map Dac.name)

namespace Bank

def empty : Bank :=
  ⟨[], [], .nil⟩

/-- The bank of DACs that are known to have different names. -/
def ofDistinct (dacs : List Dac) (distinct : (dacs.map Dac.name).Nodup) : Bank where
  dacs := dacs
  index := (dacs.map Dac.name).zipIdx.reverse
  indexed := by simpa using NameIndex.Tells.nil.extend distinct

def names (b : Bank) : List String :=
  b.dacs.map Dac.name

def contains (b : Bank) (name : String) : Bool :=
  b.index.contains name

/-- Adds a DAC behind the others and its place to the index, if its name is new. -/
def register (b : Bank) (d : Dac) : Except DacError Bank :=
  if h : b.index.contains d.name then .error (.duplicateDac d.name)
  else .ok ⟨b.dacs ++ [d], b.index.insert d.name b.dacs.length, by
    simpa using b.indexed.insert (Bool.eq_false_iff.mpr h)⟩

def registerAll (b : Bank) : List Dac → Except DacError Bank
  | [] => .ok b
  | d :: rest =>
    match b.register d with
    | .error e => .error e
    | .ok b' => b'.registerAll rest

def ofDacs (dacs : List Dac) : Except DacError Bank :=
  empty.registerAll dacs

theorem place_lt (b : Bank) {name : String} {i : Nat} (h : b.index.lookup name = some i) :
    i < b.dacs.length := by
  simpa using b.indexed.lt_length h

/-- The DAC at the place that the index tells, which is a place of the list. -/
def find? (b : Bank) (name : String) : Option Dac :=
  match h : b.index.lookup name with
  | some i => some (b.dacs.get ⟨i, b.place_lt h⟩)
  | none => none

theorem find?_eq_bind (b : Bank) (name : String) :
    b.find? name = (b.index.lookup name).bind fun i => b.dacs[i]? := by
  unfold find?
  split
  · rename_i i h
    simp [h, b.place_lt h]
  · rename_i h
    simp [h]

/-- The DAC of a name. -/
def get (b : Bank) (name : String) : Except DacError Dac :=
  match b.find? name with
  | some d => .ok d
  | none => .error (.unknownDac name)

def inspect (b : Bank) : String :=
  "DetectorDacs \x7b dacs: " ++ Text.bracketed (b.dacs.map Dac.inspectBound) ++ ", .. \x7d"

def create (dacs : List Dac) : Program Channel Bank := do
  let b ← Program.ofExcept (ofDacs dacs)
  Program.report (.created b.dacs.length)
  return b

def mythen3 : Program Channel Bank :=
  create Mythen3.dacs

def ofTable (t : Table) : Program Channel Bank :=
  match t.validate with
  | .error fault => .fail (.config (.table fault))
  | .ok () => create t.dacs

def set (b : Bank) (name : String) (payload : Payload) : Program Channel Unit := do
  let d ← Program.ofExcept (b.get name)
  d.set payload

/-- Reads the DACs one after the other; each row has to have `cols` values. The rows are counted
from `i`. -/
def readRows (cols : Nat) : Nat → List Dac → Program Channel (List (List Int32))
  | _, [] => .done []
  | i, d :: rest => do
    let row ← d.get
    if row.length ≠ cols then
      .fail (.shapeMismatch (.row i d.name) cols row.length)
    else do
      let rows ← readRows cols (i + 1) rest
      return row :: rows

def toRows (b : Bank) : Program Channel (List (List Int32)) := do
  let cols ← Program.moduleCount
  readRows cols 0 b.dacs

def toMatrix (b : Bank) : Program Channel Matrix := do
  let rows ← b.toRows
  match rows with
  | [] => do
    let cols ← Program.moduleCount
    return Matrix.ofRows cols []
  | row :: rest => return Matrix.ofRows row.length (row :: rest)

def checkRowCount (b : Bank) (rows : Nat) : Program Channel Unit :=
  if rows = b.dacs.length then .done ()
  else .fail (.shapeMismatch .matrixRows b.dacs.length rows)

def writeRow (i : Nat) (d : Dac) (row : List Int32) : Program Channel Unit := do
  let modules ← Program.moduleCount
  if row.length ≠ modules then
    .fail (.shapeMismatch (.row i d.name) modules row.length)
  else
    d.set (.perModule row)

/-- Writes rows to the DACs beside them; the rows are counted from `i`. -/
def writeRows : Nat → List (Dac × List Int32) → Program Channel Unit
  | _, [] => .done ()
  | i, (d, row) :: rest => do
    writeRow i d row
    writeRows (i + 1) rest

/-- Rows may differ in length; a wrong one is found when its turn comes. -/
def fromRows (b : Bank) (rows : List (List Int32)) : Program Channel Unit := do
  b.checkRowCount rows.length
  writeRows 0 (b.dacs.zip rows)
  Program.report (.imported .rows b.dacs.length)

/-- Writes the rows of a matrix to the DACs, from row `i` on. -/
def writeMatrixRows (m : Matrix) : Nat → List Dac → Program Channel Unit
  | _, [] => .done ()
  | i, d :: rest => do
    writeRow i d (m.row i)
    writeMatrixRows m (i + 1) rest

def fromMatrix (b : Bank) (m : Matrix) : Program Channel Unit := do
  b.checkRowCount m.rows
  writeMatrixRows m 0 b.dacs
  Program.report (.imported .matrix b.dacs.length)

def resetEach : List Dac → Program Channel Unit
  | [] => .done ()
  | d :: rest => do
    d.reset.reportFailure (.resetAborted d.name)
    resetEach rest

/-- Gives every DAC its default on all modules. -/
def resetAll (b : Bank) : Program Channel Unit := do
  resetEach b.dacs
  Program.report (.allReset b.dacs.length)

def renderEach : List Dac → Program Channel (List String)
  | [] => .done []
  | d :: rest => do
    let line ← d.render
    let lines ← renderEach rest
    return line :: lines

/-- A header and the row of each DAC below it. -/
def render (b : Bank) : Program Channel String := do
  let lines ← renderEach b.dacs
  return String.intercalate "\n" (Row.header :: lines)

end Bank

end DacBank
