namespace DacBank.Text

/-- A reader takes what it recognises from the front of a text and gives the rest, or refuses. -/
abbrev Reader (α : Type) : Type :=
  List Char → Option (α × List Char)

namespace Reader

variable {α : Type}

/-- Takes the characters of a word. -/
def word : List Char → List Char → Option (List Char)
  | [], s => some s
  | _ :: _, [] => none
  | w :: ws, c :: s => if w = c then word ws s else none

def manyUpTo (item : Reader α) : Nat → List Char → List α × List Char
  | 0, s => ([], s)
  | n + 1, s =>
    match item s with
    | none => ([], s)
    | some (a, rest) =>
      let (as, stop) := manyUpTo item n rest
      (a :: as, stop)

/-- Items one after another, as long as they are recognised. There are never more of them than the
text has characters, for each takes a character. -/
def many (item : Reader α) (s : List Char) : List α × List Char :=
  manyUpTo item s.length s

/-- How a list of items is closed, and whether a comma may stand before that. -/
structure Brackets where
  close : Char
  trailingComma : Bool

def listedUpTo (b : Brackets) (skip : List Char → List Char) (item : Reader α) :
    Nat → Bool → List Char → Option (List α × List Char)
  | 0, _, _ => none
  | n + 1, mayClose, s =>
    match skip s with
    | [] => none
    | c :: rest =>
      if c = b.close ∧ mayClose then some ([], rest)
      else
        match item (c :: rest) with
        | none => none
        | some (a, rest) =>
          match skip rest with
          | [] => none
          | d :: rest =>
            if d = ',' then
              match listedUpTo b skip item n b.trailingComma rest with
              | none => none
              | some (as, stop) => some (a :: as, stop)
            else if d = b.close then some ([a], rest)
            else none

/-- Items up to the closing bracket with commas between them; `skip` passes over what may stand
around them. -/
def listed (b : Brackets) (skip : List Char → List Char) (item : Reader α) (s : List Char) :
    Option (List α × List Char) :=
  listedUpTo b skip item (s.length + 1) true s

end Reader

end DacBank.Text
