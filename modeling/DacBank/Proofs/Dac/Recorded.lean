import DacBank.Dac.Access
import DacBank.Proofs.Property.Progress

namespace DacBank.Dac

open Program Exchange

/-- The event about values outside the bounds, if there are such values. -/
def warning (d : Dac) (payload : Payload) : List Event :=
  match d.outside payload.values with
  | [] => []
  | outside => [.outOfRange d outside]

theorem warnOutside_recorded {d : Dac} {payload : Payload} {t : List (Exchange Channel)}
    {r : Except DacError Unit} (h : Recorded (d.warnOutside payload) t r) :
    t = (d.warning payload).map .reported ∧ r = .ok () := by
  unfold warnOutside at h
  unfold warning
  cases ho : d.outside payload.values with
  | nil =>
    rw [ho] at h
    cases h
    exact ⟨rfl, rfl⟩
  | cons v vs =>
    rw [ho] at h
    exact h.of_report

theorem setModules_recorded {d : Dac} {selector : Selector} {payload : Payload}
    {t : List (Exchange Channel)} {r : Except DacError Unit}
    (h : Recorded (d.setModules selector payload) t r) :
    ∃ u, t = (d.warning payload).map .reported ++ u ∧
      Recorded (d.stepProperty.write selector payload) u r := by
  rcases h.of_bind with ⟨_, t₁, u, h₁, h₂, rfl⟩ | ⟨e, h₁, rfl⟩
  · obtain ⟨rfl, _⟩ := warnOutside_recorded h₁
    exact ⟨u, rfl, h₂⟩
  · obtain ⟨_, he⟩ := warnOutside_recorded h₁
    cases he

/-- A write in steps addresses the register of the DAC and no other. -/
theorem setModules_channel {d : Dac} {selector : Selector} {payload : Payload}
    {t : List (Exchange Channel)} {r : Except DacError Unit}
    (h : Recorded (d.setModules selector payload) t r) :
    ∀ w ∈ writes t, w.1.channel = ⟨d.register, .raw⟩ := by
  obtain ⟨u, rfl, hu⟩ := setModules_recorded h
  rw [writes_append, writes_reported, List.nil_append]
  exact Property.write_channel hu

end DacBank.Dac
