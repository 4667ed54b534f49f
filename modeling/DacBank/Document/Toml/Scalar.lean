import DacBank.Document.Value
import DacBank.Document.Toml.Moment
import DacBank.Document.Toml.Quoting
import DacBank.Text.Hex

namespace DacBank.Document.Toml

open Text Numeric

/-- Removes the underscores, each of which stands between two digits. -/
def ungroup (isDigit : Char → Bool) : List Char → Option (List Char)
  | [] => some []
  | '_' :: _ => none
  | [c] => some [c]
  | [_, '_'] => none
  | c :: '_' :: d :: rest =>
    if isDigit c && isDigit d then (ungroup isDigit (d :: rest)).map (c :: ·) else none
  | c :: d :: rest => (ungroup isDigit (d :: rest)).map (c :: ·)

/-- The text of a number, without its sign. -/
structure Numeral where
  negative : Bool
  text : List Char

def Numeral.ofText (s : List Char) : Numeral :=
  let (negative, text) := readSign s
  ⟨negative, text⟩

def withSign (negative : Bool) (n : Nat) : Int :=
  if negative then -(n : Int) else n

/-- The integers that some type of at most 128 bits holds. -/
def integerValue (n : Int) : Value :=
  if -Int.ofNat (Nat.pow 2 127) ≤ n ∧ n < Int.ofNat (Nat.pow 2 128) then .integer n
  else .unreadable

def isHexDigit (c : Char) : Bool :=
  (hexValue? c).isSome

def isDigitIn (base : Nat) (c : Char) : Bool :=
  match hexValue? c with
  | some d => d < base
  | none => false

/-- The integer whose digits stand behind the mark of their base. -/
def integerIn? (base : Nat) (s : List Char) : Option Value :=
  match ungroup (isDigitIn base) s with
  | none => none
  | some [] => some .unreadable
  | some ds =>
    if ds.all (isDigitIn base) then
      some (integerValue (ds.foldl (fun n c => base * n + (hexValue? c).getD 0) 0 : Nat))
    else none

/-- A decimal integer has no zero in front of other digits. Its underscores may stand between digits
of any base. -/
def integer? (n : Numeral) : Option Value :=
  match n.text with
  | '0' :: _ :: _ => none
  | _ =>
    (ungroup isHexDigit n.text).map fun ds =>
      if ds.all Char.isDigit then integerValue (withSign n.negative (natOfDigits ds))
      else .unreadable

/-- A float that would be infinite has no value. -/
def floatValue (x : Binary64) : Value :=
  match x with
  | .infinite _ => .unreadable
  | x => .float x

/-- Takes the digits behind a mark, if the mark is there. -/
def readDigitsBehind (isMark : Char → Bool) (s : List Char) : Option (List Char × List Char) :=
  match s with
  | [] => some ([], [])
  | c :: rest =>
    if isMark c then
      match rest.takeWhile Char.isDigit with
      | [] => none
      | ds => some (ds, rest.dropWhile Char.isDigit)
    else some ([], c :: rest)

def isExponentMark (c : Char) : Bool :=
  c == 'e' || c == 'E'

/-- Takes an exponent, if its mark is there. -/
def readExponent (s : List Char) : Option (Int × List Char) :=
  match s with
  | [] => some (0, [])
  | c :: rest =>
    if isExponentMark c then
      let (negative, digits) := readSign rest
      match digits.takeWhile Char.isDigit with
      | [] => none
      | ds => some (withSign negative (natOfDigits ds), digits.dropWhile Char.isDigit)
    else some (0, c :: rest)

/-- A float has digits in front of its point, behind it and in its exponent. -/
def float? (n : Numeral) : Option Value := do
  let s ← ungroup Char.isDigit n.text
  let whole := s.takeWhile Char.isDigit
  let (fraction, s) ← readDigitsBehind (· == '.') (s.dropWhile Char.isDigit)
  let (exponent, s) ← readExponent s
  if whole = [] ∨ s ≠ [] ∨ (n.text.take 1 = ['0'] ∧ whole.length ≠ 1) then none
  else
    return floatValue (.ofDecimal n.negative (natOfDigits (whole ++ fraction))
      (exponent - (fraction.length : Int)))

def isFloatMark (c : Char) : Bool :=
  c == '.' || isExponentMark c

/-- What follows the first digits tells a float from an integer. -/
def number? (n : Numeral) : Option Value :=
  let rest := n.text.dropWhile Char.isDigit
  if rest.any isFloatMark then float? n
  else
    match rest with
    | [] => if n.text.isEmpty then none else integer? n
    | c :: _ => if c = '_' ∧ !rest.contains ' ' then integer? n else none

/-- A date or a time is a table of its own kind, of which only that is known. -/
def momentValue (s : List Char) : Value :=
  .table [("$datetime", .text (String.ofList s))]

def named? (s : List Char) : Option Value :=
  if s = ['t', 'r', 'u', 'e'] then some (.boolean true)
  else if s = ['f', 'a', 'l', 's', 'e'] then some (.boolean false)
  else
    let (negative, name) := readSign s
    if name = ['i', 'n', 'f'] then some (.float (.infinite negative))
    else if name = ['n', 'a', 'n'] then some (.float .nan)
    else none

def scalar? (s : List Char) : Option Value :=
  match named? s with
  | some v => some v
  | none =>
    if isMoment s then some (momentValue s)
    else
      match s with
      | '0' :: 'x' :: ds => integerIn? 16 ds
      | '0' :: 'o' :: ds => integerIn? 8 ds
      | '0' :: 'b' :: ds => integerIn? 2 ds
      | s => number? (.ofText s)

/-- Blanks, line ends and the marks of the grammar. Quotes are none of them. -/
def wordEnds : List Char :=
  ['.', '=', ',', '[', ']', '\x7b', '\x7d', ' ', '\t', '#', '\r', '\n']

def isWordChar (c : Char) : Bool :=
  !wordEnds.contains c

/-- Whether another word follows behind blanks; a string is none. -/
def wordFollows (s : List Char) : Bool :=
  match skipBlanks s with
  | [] => false
  | c :: _ => isWordChar c && c != '"' && c != '\''

/-- The characters of a scalar, and those behind it. -/
def scalarRun : List Char → List Char × List Char
  | [] => ([], [])
  | c :: rest =>
    if isWordChar c || c == '.' || ((c == ' ' || c == '\t') && wordFollows rest) then
      let (run, stop) := scalarRun rest
      (c :: run, stop)
    else ([], c :: rest)

def readScalar (s : List Char) : Option (Value × List Char) :=
  let (run, rest) := scalarRun s
  (scalar? run).map fun v => (v, rest)

end DacBank.Document.Toml
