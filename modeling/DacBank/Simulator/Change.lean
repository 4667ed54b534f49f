import DacBank.Simulator

namespace DacBank.Simulator

inductive Change where
  | modules (count : Nat)
  | failing (module : Option Nat)
  | budget (writes : Option Nat)
  | counters
  deriving DecidableEq

def apply (s : Simulator) : Change → Simulator
  | .modules count => s.setModuleCount count
  | .failing module => s.failModule module
  | .budget writes => s.failAfterWrites writes
  | .counters => s.resetCounters

end DacBank.Simulator
