import DacBank.Dac
import DacBank.Property

namespace DacBank.Dac

def stepProperty (d : Dac) : Property Channel :=
  ⟨d.name, ⟨d.register, .raw⟩⟩

def millivoltProperty (d : Dac) : Property Channel :=
  ⟨d.name, ⟨d.register, .millivolt⟩⟩

def getModules (d : Dac) (selector : Selector) : Program Channel (List Int32) :=
  d.stepProperty.read selector

def get (d : Dac) : Program Channel (List Int32) :=
  d.getModules .all

def getMillivolt (d : Dac) : Program Channel (List Int32) :=
  d.millivoltProperty.read .all

/-- Reports the values outside the bounds, if there are any. -/
def warnOutside (d : Dac) (payload : Payload) : Program Channel Unit :=
  match d.outside payload.values with
  | [] => .done ()
  | outside => Program.report (.outOfRange d outside)

/-- Values outside the bounds are reported, and written like all others. -/
def setModules (d : Dac) (selector : Selector) (payload : Payload) : Program Channel Unit := do
  d.warnOutside payload
  d.stepProperty.write selector payload

def set (d : Dac) (payload : Payload) : Program Channel Unit :=
  d.setModules .all payload

def setMillivolt (d : Dac) (payload : Payload) : Program Channel Unit :=
  d.millivoltProperty.write .all payload

def reset (d : Dac) : Program Channel Unit :=
  d.stepProperty.write .all (.scalar d.default)

def render (d : Dac) : Program Channel String :=
  d.stepProperty.render .all

end DacBank.Dac
