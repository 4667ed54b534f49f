import DacBank.Detector

namespace DacBank.Program

variable {χ σ α β : Type} {d : Detector χ σ} {p : Program χ α} {f : α → Program χ β} {s s' : σ}

theorem run_bind_ok {a : α} (h : (p.run d s).result = .ok a) :
    (p >>= f).run d s = ((f a).run d (p.run d s).state).after (p.run d s).record := by
  refine (run_bind d p f s).trans ?_
  rw [h]

theorem run_bind_error {e : DacError} (h : (p.run d s).result = .error e) :
    (p >>= f).run d s = ⟨.error e, (p.run d s).record, (p.run d s).state⟩ := by
  refine (run_bind d p f s).trans ?_
  rw [h]

def ending (d : Detector χ σ) (p : Program χ α) (s : σ) : Except DacError α × σ :=
  ((p.run d s).result, (p.run d s).state)

theorem ending_bind_ok {a : α} (h : p.ending d s = (.ok a, s')) :
    (p >>= f).ending d s = (f a).ending d s' := by
  obtain ⟨hresult, rfl⟩ := Prod.mk.inj h
  rw [ending, run_bind_ok hresult]
  rfl

theorem ending_bind_error {e : DacError} (h : p.ending d s = (.error e, s')) :
    (p >>= f).ending d s = (.error e, s') := by
  obtain ⟨hresult, rfl⟩ := Prod.mk.inj h
  rw [ending, run_bind_error hresult]

/-- A sequence that succeeds has come to its second part and through it. -/
theorem ending_of_bind_ok {b : β} (h : ((p >>= f).run d s).result = .ok b) :
    ∃ a s', p.ending d s = (.ok a, s') ∧ ((f a).run d s').result = .ok b := by
  cases hp : (p.run d s).result with
  | ok a =>
    rw [run_bind_ok hp] at h
    exact ⟨a, _, Prod.ext hp rfl, h⟩
  | error e =>
    rw [run_bind_error hp] at h
    cases h

/-- Reporting is no more than a line in the record. -/
theorem ending_then_report (d : Detector χ σ) (p : Program χ Unit) (ev : Event) (s : σ) :
    (p >>= fun _ => report ev).ending d s = p.ending d s := by
  rcases hp : p.ending d s with ⟨e | _, s'⟩
  · exact ending_bind_error hp
  · exact ending_bind_ok hp

/-- A failure that is reported is one line more at the end of the record. -/
theorem run_reportFailure (d : Detector χ σ) (p : Program χ α) (event : DacError → Event) (s : σ) :
    (p.reportFailure event).run d s =
      match (p.run d s).result with
      | .ok _ => p.run d s
      | .error e =>
        { p.run d s with record := (p.run d s).record ++ [.reported (event e)] } := by
  induction p generalizing s with
  | done a | fail e => rfl
  | count next ih | read c modules next ih | write c value modules next ih =>
    simp only [reportFailure, run, ih, Outcome.after]
    split <;> simp_all
  | emit ev next ih =>
    simp only [reportFailure, run, ih, Outcome.after]
    split <;> simp_all

theorem ending_reportFailure (d : Detector χ σ) (p : Program χ α) (event : DacError → Event)
    (s : σ) : (p.reportFailure event).ending d s = p.ending d s := by
  rw [ending, run_reportFailure]
  split <;> rfl

end DacBank.Program
