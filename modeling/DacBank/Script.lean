import DacBank.Detector

namespace DacBank

/-- A prepared answer to a call, or word to leave the call to the detector behind the script. -/
inductive Prepared (α : Type) where
  | pass
  | answer (result : Except DetectorError α)

structure Script where
  reads : List (Prepared (List Int32))
  writes : List (Prepared Unit)
  counts : List Nat

namespace Script

def empty : Script :=
  ⟨[], [], []⟩

variable {χ σ α : Type}

def lift (script : Script) (r : Reply σ α) : Reply (Script × σ) α :=
  ⟨r.result, r.events, (script, r.state)⟩

def count (d : Detector χ σ) : Script × σ → Nat × (Script × σ)
  | (script, s) =>
    match script.counts with
    | n :: rest => (n, { script with counts := rest }, s)
    | [] => let (n, s') := d.count s; (n, script, s')

def read (d : Detector χ σ) (state : Script × σ) (c : χ) (modules : List Nat) :
    Reply (Script × σ) (List Int32) :=
  let (script, s) := state
  match script.reads with
  | [] => lift script (d.read s c modules)
  | .pass :: rest => lift { script with reads := rest } (d.read s c modules)
  | .answer result :: rest => ⟨result, [], ({ script with reads := rest }, s)⟩

def write (d : Detector χ σ) (state : Script × σ) (c : χ) (value : Int32) (modules : List Nat) :
    Reply (Script × σ) Unit :=
  let (script, s) := state
  match script.writes with
  | [] => lift script (d.write s c value modules)
  | .pass :: rest => lift { script with writes := rest } (d.write s c value modules)
  | .answer result :: rest => ⟨result, [], ({ script with writes := rest }, s)⟩

/-- A detector behind a script. -/
def detector (d : Detector χ σ) : Detector χ (Script × σ) where
  count := count d
  read := read d
  write := write d

end Script

end DacBank
