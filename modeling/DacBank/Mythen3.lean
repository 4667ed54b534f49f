import DacBank.Dac

namespace DacBank

/-- The DACs under the names that the chip's registers carry. -/
inductive Mythen3 where
  | cassh | vth2 | vrfsh | vrfshNpol | vipreOut | vth3 | vth1 | vicin
  | cas | vrf | vph | vipre | viinsh | vpl | vtrim | vdcsh
  deriving DecidableEq

namespace Mythen3

def all : List Mythen3 :=
  [.cassh, .vth2, .vrfsh, .vrfshNpol, .vipreOut, .vth3, .vth1, .vicin,
    .cas, .vrf, .vph, .vipre, .viinsh, .vpl, .vtrim, .vdcsh]

def number (m : Mythen3) : Nat :=
  all.idxOf m

def register (m : Mythen3) : Register :=
  ⟨UInt16.ofNat m.number⟩

/-- The name of the chip register. -/
def chipName : Mythen3 → String
  | .cassh => "Cassh"
  | .vth2 => "Vth2"
  | .vrfsh => "Vrfsh"
  | .vrfshNpol => "VrfshNpol"
  | .vipreOut => "VipreOut"
  | .vth3 => "Vth3"
  | .vth1 => "Vth1"
  | .vicin => "Vicin"
  | .cas => "Cas"
  | .vrf => "Vrf"
  | .vph => "Vph"
  | .vipre => "Vipre"
  | .viinsh => "Viinsh"
  | .vpl => "Vpl"
  | .vtrim => "Vtrim"
  | .vdcsh => "Vdcsh"

/-- The name that users of the detector know. -/
def name : Mythen3 → String
  | .cassh => "vcassh"
  | .vth2 => "vth2"
  | .vrfsh => "vshaper"
  | .vrfshNpol => "vshaperneg"
  | .vipreOut => "vipre_out"
  | .vth3 => "vth3"
  | .vth1 => "vth1"
  | .vicin => "vicin"
  | .cas => "vcas"
  | .vrf => "vpreamp"
  | .vph => "vph"
  | .vipre => "vipre"
  | .viinsh => "viinsh"
  | .vpl => "vpl"
  | .vtrim => "vtrim"
  | .vdcsh => "vdcsh"

def default : Mythen3 → Int32
  | .cassh => 1200
  | .vth2 => 2800
  | .vrfsh => 1280
  | .vrfshNpol => 2800
  | .vipreOut => 1220
  | .vth3 => 2800
  | .vth1 => 2800
  | .vicin => 1708
  | .cas => 1800
  | .vrf => 1100
  | .vph => 1712
  | .vipre => 2624
  | .viinsh => 1708
  | .vpl => 1100
  | .vtrim => 2800
  | .vdcsh => 800

def dac (m : Mythen3) : Dac :=
  ⟨m.name, m.register, 0, 4095, m.default⟩

def dacs : List Dac :=
  all.map dac

def ofName? (name : String) : Option Mythen3 :=
  all.find? (·.name == name)

def ofRegister? (raw : UInt16) : Option Mythen3 :=
  all[raw.toNat]?

/-- What is told of a register number that no DAC of the board has. -/
def unknownRegisterMessage (raw : UInt16) : String :=
  "No discriminant in enum `Mythen3Dac` matches the value `" ++ Text.decimal raw.toNat ++ "`"

end Mythen3

end DacBank
