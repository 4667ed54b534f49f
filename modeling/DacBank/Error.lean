import DacBank.Document.Fault

namespace DacBank

inductive ConverterFault where
  | emptyInput (low high : Int32)
  | tooFewSteps (steps : Int32)
  | invertedVoltages (low high : Int32)
  | other (reason : String)
  deriving DecidableEq

/-- Why a value or a register is refused before anything is sent. -/
inductive SettingError where
  | valueOutOfRange (value low high : Int32)
  | unknownRegister (register : UInt16)
  | invalidConverter (fault : ConverterFault)
  deriving DecidableEq

/-- Why a call to the detector gave no answer, or a wrong one. -/
inductive DetectorError where
  | io (reason : String)
  | module (index : Nat) (reason : String)
  | timeout
  | invalidResponse (expected actual : Nat)
  | disconnected
  | setting (error : SettingError)
  deriving DecidableEq

/-- The three things whose length is checked against the bank or the detector. -/
inductive Shape where
  | matrixRows
  | row (index : Nat) (dac : String)
  | values (dac : String)
  deriving DecidableEq

/-- Why a list of descriptors is not a table. -/
inductive TableFault where
  | empty
  | duplicateName (name : String)
  deriving DecidableEq

/-- Why a text is not a table: it is no document at all, or a field of it is wrong. -/
inductive TextFault where
  | grammar
  | field (fault : Document.Fault)
  deriving DecidableEq

inductive FileFault where
  | notFound
  | isDirectory
  | notText
  deriving DecidableEq

/-- Why no table came out of a file or a text, or went into one. -/
inductive TableError where
  | file (fault : FileFault)
  | text (fault : TextFault)
  | table (fault : TableFault)
  deriving DecidableEq

/-- Why an operation of the bank stopped. An error keeps the cause below it: a failed write is
`communication` around the detector's own error, which may hold a refused setting. -/
inductive DacError where
  | unknownDac (name : String)
  | duplicateDac (name : String)
  | shapeMismatch (what : Shape) (expected actual : Nat)
  | moduleOutOfRange (module count : Nat)
  | communication (error : DetectorError)
  | config (error : TableError)
  deriving DecidableEq

def ConverterFault.message : ConverterFault → String
  | .emptyInput low high => s!"empty input range ({low} to {high})"
  | .tooFewSteps steps => s!"steps must be at least 2, got {steps}"
  | .invertedVoltages low high => s!"min_mv ({low}) must be below max_mv ({high})"
  | .other reason => reason

def SettingError.message : SettingError → String
  | .valueOutOfRange value low high => s!"Value {value} outside bounds ({low} to {high})"
  | .unknownRegister register => s!"Unknown DAC register: {register.toNat}"
  | .invalidConverter fault => "Invalid converter range: " ++ fault.message

def DetectorError.message : DetectorError → String
  | .io reason => s!"IO Error: {reason}"
  | .module index reason => s!"Module {index} error: {reason}"
  | .timeout => "Operation timeout"
  | .invalidResponse expected actual =>
    s!"Invalid response: expected {expected} values, got {actual}"
  | .disconnected => "Detector disconnected"
  | .setting error => "Protocol error: " ++ error.message

/-- The module that the detector blames, if it blames one. -/
def DetectorError.failedModule : DetectorError → Option Nat
  | .module index _ => some index
  | _ => none

def Shape.message : Shape → String
  | .matrixRows => "matrix rows"
  | .row index dac => s!"row {index} ('{dac}')"
  | .values dac => s!"values of '{dac}'"

def TableFault.message : TableFault → String
  | .empty => "Dac table is empty"
  | .duplicateName name => s!"Duplicate dac name in table: {name}"

def TextFault.message : TextFault → String
  | .grammar => "not a document"
  | .field fault => fault.message

def FileFault.message : FileFault → String
  | .notFound => "No such file or directory (os error 2)"
  | .isDirectory => "Is a directory (os error 21)"
  | .notText => "stream did not contain valid UTF-8"

def TableError.message : TableError → String
  | .file fault => "IO Error: " ++ fault.message
  | .text fault => "Parse error: " ++ fault.message
  | .table fault => fault.message

def DacError.message : DacError → String
  | .unknownDac name => s!"Dac not found: {name}"
  | .duplicateDac name => s!"Duplicate dac name: {name}"
  | .shapeMismatch what expected actual =>
    s!"Shape mismatch for {what.message}: expected {expected}, got {actual}"
  | .moduleOutOfRange module count =>
    s!"Module {module} out of range (detector has {count} modules)"
  | .communication error => "Communication error: " ++ error.message
  | .config error => "Config error: " ++ error.message

end DacBank
