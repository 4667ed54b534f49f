import DacBank.Detector
import DacBank.ModuleValues

namespace DacBank

/-- The values of the modules in their order. -/
structure Shelf where
  values : List Int32
  deriving DecidableEq

namespace Shelf

def check (s : Shelf) (modules : List Nat) : Except DetectorError Unit :=
  match modules.find? (s.values.length ≤ ·) with
  | some m => .error (.module m "no reply")
  | none => .ok ()

def read (s : Shelf) (modules : List Nat) : Except DetectorError (List Int32) := do
  s.check modules
  return modules.map fun m => s.values.getD m 0

/-- A call that names a module beyond the last one changes nothing. -/
def write (s : Shelf) (value : Int32) (modules : List Nat) : Except DetectorError Shelf := do
  s.check modules
  return ⟨ModuleValues.setAll value modules s.values⟩

/-- Drops modules at the end, or adds modules with the value 0. -/
def resize (s : Shelf) (modules : Nat) : Shelf :=
  ⟨ModuleValues.resize modules 0 s.values⟩

def detector : Detector Unit Shelf where
  count s := (s.values.length, s)
  read s _ modules := ⟨s.read modules, [], s⟩
  write s _ value modules :=
    match s.write value modules with
    | .ok s' => ⟨.ok (), [], s'⟩
    | .error e => ⟨.error e, [], s⟩

end Shelf

end DacBank
