namespace DacBank.Text

/-- Both ends of a range belong to it. -/
abbrev Ranges : Type :=
  List (Nat × Nat)

namespace Ranges

def holds (rs : Ranges) (c : Char) : Bool :=
  rs.any fun (first, last) => first ≤ c.toNat && c.toNat ≤ last

/-- Whether the ranges ascend and no two of them touch. -/
def ascend : Ranges → Bool
  | [] => true
  | [(first, last)] => first ≤ last
  | (first, last) :: (next, stop) :: rest =>
    first ≤ last && last + 1 < next && ascend ((next, stop) :: rest)

def count : Ranges → Nat
  | [] => 0
  | (first, last) :: rest => last + 1 - first + count rest

end Ranges

end DacBank.Text
