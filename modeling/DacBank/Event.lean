import DacBank.Error
import DacBank.Dac

namespace DacBank

/-- Severities, the most severe first. -/
inductive Level where
  | error
  | warn
  | info
  | debug
  | trace
  deriving DecidableEq

namespace Level

def rank : Level → Nat
  | .error => 1
  | .warn => 2
  | .info => 3
  | .debug => 4
  | .trace => 5

/-- Whether a log kept down to one level holds the lines of another. -/
def includes (least level : Level) : Bool :=
  level.rank ≤ least.rank

def name : Level → String
  | .error => "ERROR"
  | .warn => "WARN"
  | .info => "INFO"
  | .debug => "DEBUG"
  | .trace => "TRACE"

end Level

/-- Where the values of a whole bank came from. -/
inductive ImportSource where
  | matrix
  | rows
  deriving DecidableEq

/-- An event is its cause; the level, the sentence and the labelled texts of a log line are read off
it. -/
inductive Event where
  | created (dacs : Nat)
  | read (property : String) (modules : List Nat) (values : List Int32)
  | broadcast (property : String) (modules : List Nat) (value : Int32)
  | perModule (property : String) (modules : List Nat) (values : List Int32)
  | outOfRange (dac : Dac) (outside : List Int32)
  | imported (source : ImportSource) (dacs : Nat)
  | resetAborted (dac : String) (error : DacError)
  | allReset (dacs : Nat)
  | simulatedRead (channel : Channel) (modules : List Nat) (values : List Int32)
  | simulatedWrite (channel : Channel) (value raw : Int32) (modules : List Nat)
  deriving DecidableEq

namespace Event

def level : Event → Level
  | .created _ => .debug
  | .read .. => .debug
  | .broadcast .. => .debug
  | .perModule .. => .debug
  | .outOfRange .. => .warn
  | .imported .. => .info
  | .resetAborted .. => .warn
  | .allReset _ => .info
  | .simulatedRead .. => .trace
  | .simulatedWrite .. => .trace

def message : Event → String
  | .created _ => "dac collection created"
  | .read .. => "read"
  | .broadcast .. => "write (broadcast)"
  | .perModule .. => "write (per module)"
  | .outOfRange .. => "writing dac value outside descriptive range"
  | .imported .matrix _ => "dacs set from matrix"
  | .imported .rows _ => "dacs set from rows"
  | .resetAborted .. => "reset to default aborted"
  | .allReset _ => "all dacs reset to default"
  | .simulatedRead .. => "mock get_dac"
  | .simulatedWrite .. => "mock set_dac"

private def word (n : Int32) : String :=
  Text.decimal n.toInt

def fields : Event → List (String × String)
  | .created dacs => [("dacs", Text.decimal dacs)]
  | .read property modules values =>
    [("property", property), ("modules", Text.natList modules), ("values", Text.int32List values)]
  | .broadcast property modules value =>
    [("property", property), ("modules", Text.natList modules), ("value", word value)]
  | .perModule property modules values =>
    [("property", property), ("modules", Text.natList modules), ("values", Text.int32List values)]
  | .outOfRange dac outside =>
    [("dac", dac.name), ("outside", Text.int32List outside), ("min", word dac.min),
      ("max", word dac.max)]
  | .imported _ dacs => [("dacs", Text.decimal dacs)]
  | .resetAborted dac error => [("dac", dac), ("error", error.message)]
  | .allReset dacs => [("dacs", Text.decimal dacs)]
  | .simulatedRead channel modules values =>
    [("register", channel.register.display), ("unit", channel.unit.name),
      ("modules", Text.natList modules), ("values", Text.int32List values)]
  | .simulatedWrite channel value raw modules =>
    [("register", channel.register.display), ("unit", channel.unit.name), ("value", word value),
      ("raw", word raw), ("modules", Text.natList modules)]

end Event

end DacBank
