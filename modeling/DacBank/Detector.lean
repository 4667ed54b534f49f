import DacBank.Program

namespace DacBank

structure Reply (σ α : Type) where
  result : Except DetectorError α
  events : List Event
  state : σ

/-- A detector with calls to channels `χ` and states `σ`. Nothing is assumed of its answers, so it
may lose modules between two calls or answer with too few values. -/
structure Detector (χ σ : Type) where
  count : σ → Nat × σ
  read : σ → χ → List Nat → Reply σ (List Int32)
  write : σ → χ → Int32 → List Nat → Reply σ Unit

/-- One line of the record of a run. -/
inductive Exchange (χ : Type) where
  | counted (modules : Nat)
  | read (channel : χ) (modules : List Nat) (result : Except DetectorError (List Int32))
  | wrote (channel : χ) (value : Int32) (modules : List Nat) (result : Except DetectorError Unit)
  | reported (event : Event)

namespace Exchange

variable {χ : Type}

def event? : Exchange χ → Option Event
  | .reported event => some event
  | _ => none

end Exchange

structure Outcome (χ σ α : Type) where
  result : Except DacError α
  record : List (Exchange χ)
  state : σ

namespace Outcome

variable {χ σ α : Type}

/-- Puts what happened before in front of the record. -/
def after (earlier : List (Exchange χ)) (o : Outcome χ σ α) : Outcome χ σ α :=
  { o with record := earlier ++ o.record }

def events (o : Outcome χ σ α) : List Event :=
  o.record.filterMap Exchange.event?

end Outcome

namespace Program

variable {χ σ α : Type}

def run (d : Detector χ σ) : Program χ α → σ → Outcome χ σ α
  | .done a, s => ⟨.ok a, [], s⟩
  | .fail e, s => ⟨.error e, [], s⟩
  | .count next, s =>
    let (n, s') := d.count s
    ((next n).run d s').after [.counted n]
  | .read c ms next, s =>
    let r := d.read s c ms
    ((next r.result).run d r.state).after (.read c ms r.result :: r.events.map .reported)
  | .write c v ms next, s =>
    let r := d.write s c v ms
    ((next r.result).run d r.state).after (.wrote c v ms r.result :: r.events.map .reported)
  | .emit ev next, s => (next.run d s).after [.reported ev]

/-- Running one program after another: the second starts where the first one stops, unless it fails.
-/
theorem run_bind {β : Type} (d : Detector χ σ) (p : Program χ α) (f : α → Program χ β) (s : σ) :
    (p.bind f).run d s =
      match (p.run d s).result with
      | .ok a => ((f a).run d (p.run d s).state).after (p.run d s).record
      | .error e => ⟨.error e, (p.run d s).record, (p.run d s).state⟩ := by
  induction p generalizing s with
  | done a => rfl
  | fail e => rfl
  | count next ih | read c ms next ih | write c v ms next ih =>
    simp only [bind, run, ih, Outcome.after]
    split <;> simp
  | emit ev next ih =>
    simp only [bind, run, ih, Outcome.after]
    split <;> simp

end Program

end DacBank
