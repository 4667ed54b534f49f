namespace DacBank

/-- The number that the detector knows a DAC by. -/
structure Register where
  raw : UInt16
  deriving DecidableEq

/-- DAC steps, or millivolts converted by the detector. -/
inductive MeasureUnit where
  | raw
  | millivolt
  deriving DecidableEq

/-- What one call to the detector addresses on each of its modules. -/
structure Channel where
  register : Register
  unit : MeasureUnit
  deriving DecidableEq

namespace Register

def display (r : Register) : String :=
  s!"reg#{r.raw.toNat}"

def inspect (r : Register) : String :=
  s!"RegisterId({r.raw.toNat})"

end Register

def MeasureUnit.name : MeasureUnit → String
  | .raw => "Raw"
  | .millivolt => "Millivolt"

/-- The description of a channel that is bound to a detector. -/
def Channel.inspect (c : Channel) : String :=
  "DacBackend \x7b register: " ++ c.register.inspect ++ ", unit: " ++ c.unit.name ++ ", .. \x7d"

end DacBank
