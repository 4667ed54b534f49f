import DacBank.Bank.Request
import DacBank.Detector

namespace DacBank.Bank

/-- One step of a session with a detector of states `σ`. -/
inductive Step (σ : Type) where
  | request (q : Request)
  | outside (change : σ → σ)

/-- A request and what came of it. -/
structure Served (σ : Type) where
  request : Request
  outcome : Outcome Channel σ Answer

structure Session (σ : Type) where
  /-- The making of the bank, which tells the names of its DACs. -/
  opening : Outcome Channel σ (List String)
  served : List (Served σ)
  /-- The detector at the end. -/
  state : σ

variable {σ : Type}

/-- The requests of some steps with their outcomes, and the detector behind them. -/
def serve (h : Detector Channel σ) (b : Bank) : List (Step σ) → σ → List (Served σ) × σ
  | [], s => ([], s)
  | .request q :: rest, s =>
    let o := (b.perform q).run h s
    let (served, s') := b.serve h rest o.state
    (⟨q, o⟩ :: served, s')
  | .outside change :: rest, s => b.serve h rest (change s)

/-- The record of all requests together. -/
def recordOf (served : List (Served σ)) : List (Exchange Channel) :=
  served.flatMap fun x => x.outcome.record

/-- A session from the making of its bank on. Without a bank there are no requests. -/
def Session.run (h : Detector Channel σ) (make : Program Channel Bank) (steps : List (Step σ))
    (s : σ) : Session σ :=
  let o := make.run h s
  let opening : Outcome Channel σ (List String) := ⟨o.result.map names, o.record, o.state⟩
  match o.result with
  | .ok b =>
    let (served, s') := b.serve h steps o.state
    ⟨opening, served, s'⟩
  | .error _ => ⟨opening, [], o.state⟩

end DacBank.Bank
