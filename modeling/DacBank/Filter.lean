import DacBank.Event
import DacBank.Text.Alphanumeric
import DacBank.Text.WhiteSpace

namespace DacBank

/-- A directive without a target is for all of them; without a level it silences. -/
structure Directive where
  target : Option String
  level : Option Level
  deriving DecidableEq

inductive FilterFault where
  | directive
  | level
  deriving DecidableEq

/-- Which targets are logged, and down to which level. -/
structure Filter where
  directives : List Directive
  deriving DecidableEq

inductive LoggerError where
  | filter (fault : FilterFault)
  | alreadyInstalled
  deriving DecidableEq

def FilterFault.message : FilterFault → String
  | .directive => "invalid filter directive"
  | .level =>
    "error parsing level filter: expected one of \"off\", \"error\", \"warn\", \"info\", " ++
      "\"debug\", \"trace\", or a number 0-5"

def LoggerError.message : LoggerError → String
  | .filter fault => "Invalid filter directive: " ++ fault.message
  | .alreadyInstalled =>
    "Failed to install log bridge: attempted to set a logger after the logging system was " ++
      "already initialized"

namespace Directive

def levelName : Option Level → String
  | none => "off"
  | some .error => "error"
  | some .warn => "warn"
  | some .info => "info"
  | some .debug => "debug"
  | some .trace => "trace"

def ofRank? : Nat → Option (Option Level)
  | 0 => some none
  | 1 => some (some .error)
  | 2 => some (some .warn)
  | 3 => some (some .info)
  | 4 => some (some .debug)
  | 5 => some (some .trace)
  | _ => none

/-- Digits, perhaps behind a plus sign. -/
def number? (s : List Char) : Option Nat :=
  let ds := match s with
    | '+' :: rest => rest
    | s => s
  if ds.isEmpty || !ds.all Char.isDigit then none else some (Text.natOfDigits ds)

/-- A level is its number or its name in any case. -/
def level? (s : List Char) : Option (Option Level) :=
  match number? s with
  | some n => ofRank? n
  | none =>
    [none, some .error, some .warn, some .info, some .debug, some .trace].find? fun level =>
      (levelName level).toList == s.map Char.toLower

def startsTarget (c : Char) : Bool :=
  Text.isAlphanumeric c || c == '-' || c == ':' || c == '_'

def byteSize : List Char → Nat
  | [] => 0
  | c :: rest => c.utf8Size + byteSize rest

/-- The characters in the first bytes of a text, and those behind them. -/
def splitBytes : Nat → List Char → List Char × List Char
  | _, [] => ([], [])
  | n, c :: rest =>
    if c.utf8Size ≤ n then
      let (front, behind) := splitBytes (n - c.utf8Size) rest
      (c :: front, behind)
    else ([], c :: rest)

/-- A level, or else a target that is logged whole. -/
def ofWord (s : List Char) : Directive :=
  match level? s with
  | some level => ⟨none, level⟩
  | none => ⟨some (String.ofList s), some .trace⟩

/-- Where the equals sign stands is counted in bytes, without the blanks in front. -/
def ofText (s : List Char) : Except FilterFault Directive :=
  match Text.trim s with
  | [] => .error .directive
  | c :: rest =>
    if !startsTarget c then .error .directive
    else if (c :: rest).contains '=' then
      let place := byteSize ((c :: rest).takeWhile (· != '='))
      let target := String.ofList (splitBytes place s).1
      match (splitBytes (place + 1) s).2 with
      | [] => .ok ⟨some target, some .trace⟩
      | levelText =>
        match level? levelText with
        | some level => .ok ⟨some target, level⟩
        | none => .error .level
    else .ok (ofWord s)

def write (d : Directive) : String :=
  match d.target with
  | none => levelName d.level
  | some target => target ++ "=" ++ levelName d.level

/-- Longer targets come first, then greater ones; the directive for everything comes last. -/
def before (a b : Directive) : Bool :=
  match a.target, b.target with
  | none, _ => false
  | some _, none => true
  | some s, some t =>
    t.utf8ByteSize < s.utf8ByteSize || (s.utf8ByteSize == t.utf8ByteSize && t < s)

end Directive

namespace Filter

/-- Puts a directive in its place; one for the same target is replaced. -/
def insert (d : Directive) : List Directive → List Directive
  | [] => [d]
  | e :: rest =>
    if e.target = d.target then d :: rest
    else if d.before e then d :: e :: rest
    else e :: insert d rest

/-- The parts between commas; empty ones do not count. -/
def pieces (s : String) : List (List Char) :=
  (go s.toList).filter fun piece => !piece.isEmpty
where
  go : List Char → List (List Char)
    | [] => [[]]
    | ',' :: rest => [] :: go rest
    | c :: rest =>
      match go rest with
      | [] => [[c]]
      | piece :: more => (c :: piece) :: more

def ofText (s : String) : Except FilterFault Filter := do
  let directives ← (pieces s).mapM Directive.ofText
  return ⟨directives.foldl (fun ds d => insert d ds) []⟩

def write (f : Filter) : String :=
  String.intercalate "," (f.directives.map Directive.write)

/-- The filter of the environment if it has one that can be read, else the given default. -/
def choose (environment : Option String) (default : String) : Except FilterFault Filter :=
  match environment.map ofText with
  | some (.ok f) => .ok f
  | _ => ofText default

/-- Starting the logger a second time. -/
def installAgain (environment : Option String) (default : String) : Except LoggerError Unit :=
  match choose environment default with
  | .error fault => .error (.filter fault)
  | .ok _ => .error .alreadyInstalled

end Filter

end DacBank
