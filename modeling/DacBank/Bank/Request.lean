import DacBank.Bank

namespace DacBank.Bank

/-- What is asked of one DAC. -/
inductive DacRequest where
  | get
  | getModules (selector : Selector)
  | getMillivolt
  | set (payload : Payload)
  | setModules (selector : Selector) (payload : Payload)
  | setMillivolt (payload : Payload)
  | reset
  | render
  | readSteps (selector : Selector)
  | writeSteps (selector : Selector) (payload : Payload)
  | renderSteps (selector : Selector)
  deriving DecidableEq

inductive Request where
  | one (name : String) (request : DacRequest)
  | toRows
  | toMatrix
  | fromRows (rows : List (List Int32))
  | fromMatrix (m : Matrix)
  | copyMatrix
  | resetAll
  | render
  deriving DecidableEq

inductive Answer where
  | nothing
  | values (values : List Int32)
  | rows (rows : List (List Int32))
  | matrix (m : Matrix)
  | text (s : String)
  deriving DecidableEq

/-- The step property of a DAC is reached without the report on values outside the bounds. -/
def performOn (d : Dac) : DacRequest → Program Channel Answer
  | .get => .values <$> d.get
  | .getModules selector => .values <$> d.getModules selector
  | .getMillivolt => .values <$> d.getMillivolt
  | .set payload => (fun _ => .nothing) <$> d.set payload
  | .setModules selector payload => (fun _ => .nothing) <$> d.setModules selector payload
  | .setMillivolt payload => (fun _ => .nothing) <$> d.setMillivolt payload
  | .reset => (fun _ => .nothing) <$> d.reset
  | .render => .text <$> d.render
  | .readSteps selector => .values <$> d.stepProperty.read selector
  | .writeSteps selector payload => (fun _ => .nothing) <$> d.stepProperty.write selector payload
  | .renderSteps selector => .text <$> d.stepProperty.render selector

def perform (b : Bank) : Request → Program Channel Answer
  | .one name request => do
    let d ← Program.ofExcept (b.get name)
    performOn d request
  | .toRows => .rows <$> b.toRows
  | .toMatrix => .matrix <$> b.toMatrix
  | .fromRows rows => (fun _ => .nothing) <$> b.fromRows rows
  | .fromMatrix m => (fun _ => .nothing) <$> b.fromMatrix m
  | .copyMatrix => do
    let m ← b.toMatrix
    b.fromMatrix m
    return .nothing
  | .resetAll => (fun _ => .nothing) <$> b.resetAll
  | .render => .text <$> b.render

end DacBank.Bank
