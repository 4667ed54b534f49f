import DacBank.Converter
import DacBank.Detector
import DacBank.ModuleValues
import DacBank.RegisterFile
import DacBank.Table

namespace DacBank

/-- A call first looks at its modules in the order of the list, then at its register, then converts;
a write then spends one of the writes that are left. A call that fails changes nothing but the
counter of reads. A register that was never written reads as its default, and so does a module that
was added later. -/
structure Simulator where
  modules : Nat
  stored : RegisterFile (List Int32)
  defaults : RegisterFile Int32
  /-- Registers without a default are refused. -/
  knownOnly : Bool
  converter : Converter
  /-- The module on which every call fails. -/
  failing : Option Nat
  /-- The writes that may still succeed. -/
  budget : Option Nat
  reads : Nat
  writes : Nat

namespace Simulator

/-- A detector that takes every register and starts with zeros. -/
def ofModules (modules : Nat) : Simulator where
  modules := modules
  stored := .empty
  defaults := .empty
  knownOnly := false
  converter := .mythen3
  failing := none
  budget := none
  reads := 0
  writes := 0

/-- The default of each register is that of the last DAC that has it. -/
def defaultsOf (dacs : List Dac) : RegisterFile Int32 :=
  dacs.foldl (fun f d => f.insert d.register d.default) .empty

/-- A detector that knows the registers of these DACs and starts with their defaults. -/
def ofDacs (modules : Nat) (dacs : List Dac) : Simulator :=
  { ofModules modules with knownOnly := true, defaults := defaultsOf dacs }

def withConverter (s : Simulator) (c : Converter) : Simulator :=
  { s with converter := c }

def failModule (s : Simulator) (module : Option Nat) : Simulator :=
  { s with failing := module }

def failAfterWrites (s : Simulator) (writes : Option Nat) : Simulator :=
  { s with budget := writes }

def resetCounters (s : Simulator) : Simulator :=
  { s with reads := 0, writes := 0 }

def defaultOf (s : Simulator) (r : Register) : Int32 :=
  (s.defaults.get? r).getD 0

/-- Stored values of lost modules are forgotten; added modules start at the defaults. -/
def setModuleCount (s : Simulator) (modules : Nat) : Simulator :=
  { s with
    modules := modules
    stored := s.stored.map fun r values => ModuleValues.resize modules (s.defaultOf r) values }

def rawValue (s : Simulator) (r : Register) (module : Nat) : Int32 :=
  (((s.stored.get? r).bind (·[module]?)).or (s.defaults.get? r)).getD 0

/-- What a register holds on each module, seen without a call. -/
def values (s : Simulator) (r : Register) : List Int32 :=
  (List.range s.modules).map (s.rawValue r)

/-- The values of a register as a list to be changed. -/
def row (s : Simulator) (r : Register) : List Int32 :=
  match s.stored.get? r with
  | some values => ModuleValues.resize s.modules (s.defaultOf r) values
  | none => List.replicate s.modules (s.defaultOf r)

def checkModules (s : Simulator) : List Nat → Except DetectorError Unit
  | [] => .ok ()
  | m :: rest =>
    if s.modules ≤ m then .error (.module m s!"no such module (detector has {s.modules})")
    else if s.failing = some m then .error (.module m "simulated communication failure")
    else s.checkModules rest

def checkRegister (s : Simulator) (r : Register) : Except DetectorError Unit :=
  if s.knownOnly ∧ s.defaults.get? r = none then .error (.setting (.unknownRegister r.raw))
  else .ok ()

/-- A stored value in the unit of a reply. -/
def present (s : Simulator) (unit : MeasureUnit) (raw : Int32) : Except DetectorError Int32 :=
  match unit with
  | .raw => .ok raw
  | .millivolt => (s.converter.toMillivolt raw).mapError .setting

/-- The value to store for a value in the unit of a write. -/
def absorb (s : Simulator) (unit : MeasureUnit) (value : Int32) : Except DetectorError Int32 :=
  match unit with
  | .raw => .ok value
  | .millivolt => (s.converter.toStep value).mapError .setting

def readValues (s : Simulator) (c : Channel) (modules : List Nat) :
    Except DetectorError (List Int32) := do
  s.checkModules modules
  s.checkRegister c.register
  modules.mapM fun m => s.present c.unit (s.rawValue c.register m)

def read (s : Simulator) (c : Channel) (modules : List Nat) : Reply Simulator (List Int32) :=
  let result := s.readValues c modules
  let events :=
    match result with
    | .ok values => [.simulatedRead c modules values]
    | .error _ => []
  ⟨result, events, { s with reads := s.reads + 1 }⟩

/-- Takes one of the writes that are left. -/
def spend (s : Simulator) : Except DetectorError Simulator :=
  match s.budget with
  | none => .ok s
  | some 0 => .error .timeout
  | some (n + 1) => .ok { s with budget := some n }

def store (s : Simulator) (r : Register) (raw : Int32) (modules : List Nat) : Simulator :=
  { s with
    stored := s.stored.insert r (ModuleValues.setAll raw modules (s.row r))
    writes := s.writes + 1 }

/-- The raw value that a write stores, and the detector after it. -/
def tryWrite (s : Simulator) (c : Channel) (value : Int32) (modules : List Nat) :
    Except DetectorError (Int32 × Simulator) := do
  s.checkModules modules
  s.checkRegister c.register
  let raw ← s.absorb c.unit value
  let s' ← s.spend
  return (raw, s'.store c.register raw modules)

def write (s : Simulator) (c : Channel) (value : Int32) (modules : List Nat) :
    Reply Simulator Unit :=
  match s.tryWrite c value modules with
  | .error e => ⟨.error e, [], s⟩
  | .ok (raw, s') => ⟨.ok (), [.simulatedWrite c value raw modules], s'⟩

def detector : Detector Channel Simulator where
  count s := (s.modules, s)
  read := read
  write := write

end Simulator

end DacBank
