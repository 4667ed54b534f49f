import DacBank.Document.Toml.Quoting
import DacBank.Document.Toml.Scalar
import DacBank.Document.Toml.Tree

namespace DacBank.Document.Toml

open Text

/-- Passes over a comment, up to the line end. -/
def skipComment (s : List Char) : List Char :=
  match s with
  | '#' :: rest => rest.dropWhile isPlain
  | s => s

/-- Passes over blanks, line ends and comments. -/
def skipSpace (inComment : Bool) : List Char → List Char
  | [] => []
  | c :: rest =>
    if c = '\n' then skipSpace false rest
    else if c = '\r' ∧ rest.take 1 = ['\n'] then skipSpace inComment rest
    else if inComment then if isPlain c then skipSpace true rest else c :: rest
    else if c = ' ' ∨ c = '\t' then skipSpace false rest
    else if c = '#' then skipSpace true rest
    else c :: rest

def nestingLimit : Nat := 80

def isBareChar (c : Char) : Bool :=
  c.isAlphanum || c == '-' || c == '_'

def readKey (s : List Char) : Option (String × List Char) :=
  match s with
  | [] => none
  | c :: rest =>
    if isBareChar c then
      some (String.ofList ((c :: rest).takeWhile isBareChar), (c :: rest).dropWhile isBareChar)
    else readShortText (c :: rest)

/-- A further key of a dotted path, behind its point. -/
def readNextKey (s : List Char) : Option (String × List Char) :=
  match skipBlanks s with
  | '.' :: rest => readKey (skipBlanks rest)
  | _ => none

/-- Takes a path on one line, of at most as many keys as values nest. -/
def readPath (s : List Char) : Option (Path × List Char) :=
  match readKey s with
  | none => none
  | some (key, rest) =>
    let (more, rest) := Reader.many readNextKey rest
    if more.length < nestingLimit then some (Path.ofKeys key more, rest) else none

/-- A path and the value behind the equals sign. What may stand around the sign is passed over by
`skip`. -/
def readEntry (skip : List Char → List Char) (value : Reader Value) (s : List Char) :
    Option ((Path × Value) × List Char) :=
  match readPath s with
  | none => none
  | some (path, rest) =>
    match skip rest with
    | '=' :: rest =>
      match value (skip rest) with
      | some (v, rest) => some ((path, v), rest)
      | none => none
    | _ => none

def closeTable (entries : List (Path × Value)) : Option Value :=
  (Body.addEntries [] entries).map fun b => .table (bodyEntries b)

def readSimple (s : List Char) : Option (Value × List Char) :=
  match s with
  | [] => none
  | c :: rest =>
    if c = '"' ∨ c = '\'' then (readText (c :: rest)).map fun (t, rest) => (.text t, rest)
    else readScalar (c :: rest)

/-- Values with at most this many lists and tables inside each other. -/
def readValue : Nat → Reader Value
  | 0, s => readSimple s
  | depth + 1, s =>
    match s with
    | '[' :: rest =>
      (Reader.listed ⟨']', true⟩ (skipSpace false) (readValue depth) rest).map fun (vs, rest) =>
        (.list vs, rest)
    | '\x7b' :: rest =>
      let entry := readEntry (skipSpace false) (readValue depth)
      match Reader.listed ⟨'\x7d', true⟩ (skipSpace false) entry rest with
      | some (entries, rest) => (closeTable entries).map fun v => (v, rest)
      | none => none
    | s => readSimple s

inductive Line where
  | blank
  | entry (path : Path) (v : Value)
  | header (kind : HeaderKind) (path : Path)

def readHeader (kind : HeaderKind) (close : List Char) (s : List Char) :
    Option (Line × List Char) :=
  match readPath (skipBlanks s) with
  | none => none
  | some (path, rest) =>
    (Reader.word close (skipBlanks rest)).map fun rest => (.header kind path, rest)

def readContent (s : List Char) : Option (Line × List Char) :=
  match s with
  | [] => some (.blank, [])
  | '[' :: '[' :: rest => readHeader .tables [']', ']'] rest
  | '[' :: rest => readHeader .table [']'] rest
  | c :: rest =>
    if c = '#' ∨ c = '\n' ∨ c = '\r' then some (.blank, c :: rest)
    else
      (readEntry skipBlanks (readValue nestingLimit) (c :: rest)).map fun ((path, v), rest) =>
        (.entry path v, rest)

/-- The end of a line, behind blanks and perhaps a comment. -/
def readLineEnd (s : List Char) : Option (List Char) :=
  match skipComment (skipBlanks s) with
  | [] => some []
  | rest => (readNewline rest).map (·.2)

def readLine (s : List Char) : Option (Line × List Char) :=
  match readContent (skipBlanks s) with
  | none => none
  | some (line, rest) => (readLineEnd rest).map fun rest => (line, rest)

/-- The lines of a text, of which there are no more than characters. -/
def readLines : Nat → List Char → Option (List Line)
  | _, [] => some []
  | 0, _ :: _ => none
  | n + 1, s =>
    match readLine s with
    | none => none
    | some (line, rest) => (readLines n rest).map (line :: ·)

/-- The entries before the first header, and the sections. -/
def sections : List Line → List (Path × Value) × List Section
  | [] => ([], [])
  | .blank :: rest => sections rest
  | .entry path v :: rest =>
    let (entries, later) := sections rest
    ((path, v) :: entries, later)
  | .header kind path :: rest =>
    let (entries, later) := sections rest
    ([], ⟨kind, path, entries⟩ :: later)

def ofLines (lines : List Line) : Option Value :=
  let (entries, later) := sections lines
  match Body.addEntries [] entries with
  | none => none
  | some root => (addSections root later).map fun b => .table (bodyEntries b)

/-- A byte order mark in front of a document does not belong to it. -/
def dropMark (s : List Char) : List Char :=
  match s with
  | '\ufeff' :: rest => rest
  | s => s

/-- The table that a document writes down, if the text is one. -/
def read? (s : String) : Option Value :=
  let cs := dropMark s.toList
  match readLines cs.length cs with
  | none => none
  | some lines => ofLines lines

end DacBank.Document.Toml
