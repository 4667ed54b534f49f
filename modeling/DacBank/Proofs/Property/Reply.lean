import DacBank.Proofs.Property.Progress

namespace DacBank.Property

open Program Exchange

variable {χ : Type}

/-- What a read makes of a reply: an error is passed on, and values are taken if there is one for
each of the modules. -/
def received (modules : List Nat) :
    Except DetectorError (List Int32) → Except DacError (List Int32)
  | .error e => .error (.communication e)
  | .ok values =>
    if values.length ≠ modules.length then
      .error (.communication (.invalidResponse modules.length values.length))
    else .ok values

theorem of_select_bind {α : Type} {selector : Selector} {f : List Nat → Program χ α}
    {t : List (Exchange χ)} {r : Except DacError α} (h : Recorded (select selector >>= f) t r) :
    ∃ n u, t = .counted n :: u ∧
      ((∃ e, selector.resolve n = .error e ∧ u = [] ∧ r = .error e) ∨
        ∃ modules, selector.resolve n = .ok modules ∧ Recorded (f modules) u r) := by
  obtain ⟨n, u, rfl, hu⟩ := Recorded.of_moduleCount_bind h
  refine ⟨n, u, rfl, ?_⟩
  rcases hu.of_ofExcept_bind with ⟨modules, hm, hu⟩ | ⟨e, he, rfl, rfl⟩
  · exact .inr ⟨modules, hm, hu⟩
  · exact .inl ⟨e, he, rfl, rfl⟩

/-- A read asks for the number of modules and then, if any module is selected, for all values at
once. -/
theorem read_recorded {p : Property χ} {selector : Selector} {t : List (Exchange χ)}
    {r : Except DacError (List Int32)} (h : Recorded (p.read selector) t r) :
    ∃ n u, t = .counted n :: u ∧
      ((∃ e, selector.resolve n = .error e ∧ u = [] ∧ r = .error e) ∨
        (selector.resolve n = .ok [] ∧ u = [] ∧ r = .ok []) ∨
        ∃ modules answer, ∃ events : List Event, selector.resolve n = .ok modules ∧
          modules ≠ [] ∧ u = .read p.channel modules answer :: events.map .reported ∧
          r = received modules answer) := by
  obtain ⟨n, u, rfl, hend⟩ := of_select_bind h
  refine ⟨n, u, rfl, ?_⟩
  rcases hend with herr | ⟨modules, hm, hu⟩
  · exact .inl herr
  by_cases hempty : modules.isEmpty
  · rw [if_pos hempty] at hu
    cases hu
    rw [List.isEmpty_iff.mp hempty] at hm
    exact .inr (.inl ⟨hm, rfl, rfl⟩)
  · rw [if_neg hempty] at hu
    refine .inr (.inr ?_)
    have hne : modules ≠ [] := fun h => hempty (List.isEmpty_iff.mpr h)
    rcases hu.of_bind with ⟨values, u₁, u₂, h₁, h₂, rfl⟩ | ⟨e, h₁, rfl⟩
    · obtain ⟨answer, events, rfl, hr⟩ := h₁.of_get
      cases answer with
      | error e => cases hr
      | ok reply =>
        cases hr
        by_cases hlen : values.length ≠ modules.length
        · rw [if_pos hlen] at h₂
          cases h₂
          exact ⟨modules, .ok values, events, hm, hne, by simp, by rw [received, if_pos hlen]⟩
        · rw [if_neg hlen] at h₂
          cases h₂ with
          | emit tail =>
            cases tail
            exact ⟨modules, .ok values, events ++ [.read p.name modules values], hm, hne, by simp,
              by rw [received, if_neg hlen]⟩
    · obtain ⟨answer, events, rfl, hr⟩ := h₁.of_get
      cases answer with
      | error e' =>
        cases hr
        exact ⟨modules, .error e', events, hm, hne, rfl, rfl⟩
      | ok reply => cases hr

/-- A display reads, and asks for nothing else. -/
theorem render_recorded {p : Property χ} {selector : Selector} {t : List (Exchange χ)}
    {r : Except DacError String} (h : Recorded (p.render selector) t r) :
    ∃ r', Recorded (p.read selector) t r' ∧ r = r'.map (Row.format p.name) := by
  rcases h.of_bind with ⟨values, t₁, t₂, h₁, h₂, rfl⟩ | ⟨e, h₁, rfl⟩
  · cases h₂
    exact ⟨.ok values, by simpa using h₁, rfl⟩
  · exact ⟨.error e, h₁, rfl⟩

end DacBank.Property
