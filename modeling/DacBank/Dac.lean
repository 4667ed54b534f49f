import DacBank.Channel
import DacBank.Text.Quoted

namespace DacBank

/-- A DAC as a table names it. Its bounds describe the usual values; they refuse none. -/
structure Dac where
  name : String
  register : Register
  min : Int32
  max : Int32
  default : Int32
  deriving DecidableEq

namespace Dac

/-- Whether a value lies within the described bounds. -/
def contains (d : Dac) (value : Int32) : Bool :=
  d.min ≤ value && value ≤ d.max

def outside (d : Dac) (values : List Int32) : List Int32 :=
  values.filter fun v => !d.contains v

def inspect (d : Dac) : String :=
  "DacDescriptor \x7b name: " ++ Text.quoted d.name ++
    ", register: " ++ d.register.inspect ++
    ", min_value: " ++ Text.decimal d.min.toInt ++
    ", max_value: " ++ Text.decimal d.max.toInt ++
    ", default_value: " ++ Text.decimal d.default.toInt ++ " \x7d"

/-- The description of the DAC when it is bound to a detector. -/
def inspectBound (d : Dac) : String :=
  "Dac \x7b descriptor: " ++ d.inspect ++ ", .. \x7d"

end Dac

end DacBank
