import DacBank.Numeric.Binary64

namespace DacBank.Document

/-- The entries of a table stand in the order of the text. A number that no type of the format holds
has no value; it only matters once it is looked at. -/
inductive Value where
  | null
  | boolean (b : Bool)
  | integer (n : Int)
  | float (x : Numeric.Binary64)
  | unreadable
  | text (s : String)
  | list (items : List Value)
  | table (entries : List (String × Value))

abbrev Entries : Type :=
  List (String × Value)

namespace Entries

/-- Puts an entry in its place by key; an entry of the same key is replaced. -/
def insert (key : String) (v : Value) : Entries → Entries
  | [] => [(key, v)]
  | (k, w) :: rest =>
    if key < k then (key, v) :: (k, w) :: rest
    else if key = k then (key, v) :: rest
    else (k, w) :: insert key v rest

/-- The entries by ascending key, the last of each key. -/
def sorted (entries : Entries) : Entries :=
  entries.foldl (fun es (k, v) => insert k v es) []

def get? (key : String) : Entries → Option Value
  | [] => none
  | (k, v) :: rest => if k = key then some v else get? key rest

end Entries

namespace Value

/-- The entry of a key, if the value is a table with one. -/
def get? (key : String) : Value → Option Value
  | .table entries => Entries.get? key entries
  | _ => none

mutual
/-- Whether a number without a value occurs anywhere. -/
def hasUnreadable : Value → Bool
  | .unreadable => true
  | .list items => anyUnreadable items
  | .table entries => anyEntryUnreadable entries
  | _ => false

def anyUnreadable : List Value → Bool
  | [] => false
  | v :: rest => hasUnreadable v || anyUnreadable rest

def anyEntryUnreadable : List (String × Value) → Bool
  | [] => false
  | (_, v) :: rest => hasUnreadable v || anyEntryUnreadable rest
end

end Value

end DacBank.Document
