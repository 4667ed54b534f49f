import DacBank.Dac
import DacBank.Error
import DacBank.Mythen3

namespace DacBank

structure Table where
  detector : Option String
  dacs : List Dac
  deriving DecidableEq

/-- The first name of a list that stands in it twice, told at its second place. -/
def firstRepeated (seen : List String) : List String → Option String
  | [] => none
  | name :: rest => if name ∈ seen then some name else firstRepeated (name :: seen) rest

namespace Table

def ofDacs (dacs : List Dac) : Table :=
  ⟨none, dacs⟩

def mythen3 : Table :=
  ⟨some "mythen3", Mythen3.dacs⟩

/-- A table has DACs, and no two of one name. -/
def validate (t : Table) : Except TableFault Unit :=
  if t.dacs.isEmpty then .error .empty
  else
    match firstRepeated [] (t.dacs.map Dac.name) with
    | some name => .error (.duplicateName name)
    | none => .ok ()

def inspect (t : Table) : String :=
  let detector := match t.detector with
    | none => "None"
    | some name => "Some(" ++ Text.quoted name ++ ")"
  "DacTableConfig \x7b detector: " ++ detector ++ ", dacs: " ++
    Text.bracketed (t.dacs.map Dac.inspect) ++ " \x7d"

end Table

end DacBank
