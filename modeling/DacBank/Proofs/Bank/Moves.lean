import DacBank.Bank.Session
import DacBank.Proofs.Simulator.Run

namespace DacBank

/-- A program does no more to a detector than its calls do. -/
theorem Simulator.exists_run_of_program {α : Type} (p : Program Channel α) (s : Simulator) :
    ∃ actions, (p.run detector s).state = s.run actions := by
  induction p generalizing s with
  | done a | fail e => exact ⟨[], rfl⟩
  | count next ih => exact ih s.modules s
  | read c modules next ih =>
    obtain ⟨actions, h⟩ := ih (s.read c modules).result (s.read c modules).state
    exact ⟨.read c modules :: actions, h⟩
  | write c value modules next ih =>
    obtain ⟨actions, h⟩ := ih (s.write c value modules).result (s.write c value modules).state
    exact ⟨.write c value modules :: actions, h⟩
  | emit ev next ih => exact ih s

namespace Bank

open Simulator

/-- What is done in a session: something is asked of the bank, or the detector is used directly. -/
inductive Move where
  | request (q : Request)
  | direct (a : Action)

def Move.step : Move → Step Simulator
  | .request q => .request q
  | .direct a => .outside (·.step a)

/-- By induction on the moves: each is a run of its own behind those before it. -/
theorem exists_run_of_serve (b : Bank) (moves : List Move) (s : Simulator) :
    ∃ actions, (b.serve detector (moves.map Move.step) s).2 = s.run actions := by
  induction moves generalizing s with
  | nil => exact ⟨[], rfl⟩
  | cons m rest ih =>
    cases m with
    | request q =>
      obtain ⟨first, hfirst⟩ := exists_run_of_program (b.perform q) s
      obtain ⟨others, hothers⟩ := ih ((b.perform q).run detector s).state
      exact ⟨first ++ others, hothers.trans (by rw [run_append, hfirst])⟩
    | direct a =>
      obtain ⟨others, hothers⟩ := ih (s.step a)
      exact ⟨a :: others, hothers⟩

end Bank

end DacBank
