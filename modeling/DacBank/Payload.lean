import DacBank.Text.Quoted

namespace DacBank

/-- The values of a write: one for all selected modules, or one for each of them. -/
inductive Payload where
  | scalar (value : Int32)
  | perModule (values : List Int32)
  deriving DecidableEq

namespace Payload

def values : Payload → List Int32
  | .scalar value => [value]
  | .perModule values => values

def inspect : Payload → String
  | .scalar value => "Scalar(" ++ Text.decimal value.toInt ++ ")"
  | .perModule values => "PerModule(" ++ Text.int32List values ++ ")"

end Payload

end DacBank
