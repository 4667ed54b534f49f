import DacBank.Program
import DacBank.Selector
import DacBank.Payload
import DacBank.Row

namespace DacBank

/-- A named value on every module of a detector. The selected modules are resolved against the
detector's count at each call. One value goes to all of them in one call; a list of values goes
module by module, and stops at the first refusal with the earlier modules written. -/
structure Property (χ : Type) where
  name : String
  channel : χ
  deriving DecidableEq

namespace Property

variable {χ : Type}

def inspect (p : Property χ) : String :=
  "DetectorProperty \x7b name: " ++ Text.quoted p.name ++ ", .. \x7d"

/-- The selected modules as the detector now has them. -/
def select (selector : Selector) : Program χ (List Nat) := do
  let count ← Program.moduleCount
  Program.ofExcept (selector.resolve count)

def read (p : Property χ) (selector : Selector) : Program χ (List Int32) := do
  let modules ← select selector
  if modules.isEmpty then
    return []
  else do
    let values ← Program.get p.channel modules
    if values.length ≠ modules.length then
      .fail (.communication (.invalidResponse modules.length values.length))
    else do
      Program.report (.read p.name modules values)
      return values

/-- Writes the first value to the first module, and so on, one call for each. -/
def writeEach (channel : χ) : List Nat → List Int32 → Program χ Unit
  | m :: modules, v :: values => do
    Program.set channel v [m]
    writeEach channel modules values
  | _, _ => .done ()

def broadcast (channel : χ) (modules : List Nat) (value : Int32) : Program χ Unit :=
  if modules.isEmpty then .done () else Program.set channel value modules

def write (p : Property χ) (selector : Selector) (payload : Payload) : Program χ Unit := do
  let modules ← select selector
  match payload with
  | .scalar value => do
    broadcast p.channel modules value
    Program.report (.broadcast p.name modules value)
  | .perModule values =>
    if values.length ≠ modules.length then
      .fail (.shapeMismatch (.values p.name) modules.length values.length)
    else do
      writeEach p.channel modules values
      Program.report (.perModule p.name modules values)

/-- The row of the selected modules on a display. -/
def render (p : Property χ) (selector : Selector) : Program χ String := do
  let values ← p.read selector
  return Row.format p.name values

end Property

end DacBank
