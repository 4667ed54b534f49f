import DacBank.Property
import DacBank.Proofs.Program.Recorded
import DacBank.Proofs.Simulator.Run

namespace DacBank.Simulator

theorem run_select (selector : Selector) (s : Simulator) :
    (Property.select selector).run detector s =
      ⟨selector.resolve s.modules, [.counted s.modules], s⟩ := by
  change (((Program.ofExcept (selector.resolve s.modules)).run detector s).after
    [.counted s.modules]) = _
  cases selector.resolve s.modules <;> rfl

/-- What a read does once its modules are known. -/
theorem run_get (name : String) (c : Channel) (modules : List Nat) (s : Simulator) :
    (do
      let values ← Program.get c modules
      if values.length ≠ modules.length then
        .fail (.communication (.invalidResponse modules.length values.length))
      else do
        Program.report (.read name modules values)
        return values : Program Channel (List Int32)).run detector s =
      match s.readValues c modules with
      | .error e =>
        ⟨.error (.communication e), [.read c modules (.error e)], { s with reads := s.reads + 1 }⟩
      | .ok values =>
        ⟨.ok values,
          [.read c modules (.ok values), .reported (.simulatedRead c modules values),
            .reported (.read name modules values)],
          { s with reads := s.reads + 1 }⟩ := by
  cases hv : s.readValues c modules with
  | error e =>
    have hread : s.read c modules = ⟨.error e, [], { s with reads := s.reads + 1 }⟩ := by
      simp [read, hv]
    simp only [Program.get, bind, Program.bind, Program.run, detector, hread]
    rfl
  | ok values =>
    have hread : s.read c modules =
        ⟨.ok values, [.simulatedRead c modules values], { s with reads := s.reads + 1 }⟩ := by
      simp [read, hv]
    simp only [Program.get, bind, Program.bind, Program.run, detector, hread, Program.ofAnswer,
      length_readValues hv, ne_eq, not_true_eq_false, ↓reduceIte]
    rfl

/-- A property reads the selected modules by one call, and without modules by none. -/
theorem run_read (p : Property Channel) (selector : Selector) (s : Simulator) :
    (p.read selector).run detector s =
      match selector.resolve s.modules with
      | .error e => ⟨.error e, [.counted s.modules], s⟩
      | .ok modules =>
        if modules.isEmpty then ⟨.ok [], [.counted s.modules], s⟩
        else
          match s.readValues p.channel modules with
          | .error e =>
            ⟨.error (.communication e),
              [.counted s.modules, .read p.channel modules (.error e)],
              { s with reads := s.reads + 1 }⟩
          | .ok values =>
            ⟨.ok values,
              [.counted s.modules, .read p.channel modules (.ok values),
                .reported (.simulatedRead p.channel modules values),
                .reported (.read p.name modules values)],
              { s with reads := s.reads + 1 }⟩ := by
  refine (Program.run_bind detector (Property.select selector) _ s).trans ?_
  rw [run_select]
  cases selector.resolve s.modules with
  | error e => rfl
  | ok modules =>
    by_cases hempty : modules.isEmpty = true
    · simp only [hempty, ↓reduceIte]
      rfl
    · simp only [hempty, Bool.false_eq_true, ↓reduceIte]
      rw [run_get]
      cases s.readValues p.channel modules <;> rfl

@[simp] theorem detector_read : detector.read = Simulator.read :=
  rfl

@[simp] theorem detector_write : detector.write = Simulator.write :=
  rfl

/-- Two states that reads of one register cannot tell apart. -/
structure AgreeOn (q : Register) (s s' : Simulator) : Prop where
  make : SameMake s s'
  modules : s'.modules = s.modules
  failing : s'.failing = s.failing
  row : s'.stored.get? q = s.stored.get? q

namespace AgreeOn

variable {q : Register} {s s' t : Simulator}

theorem refl (q : Register) (s : Simulator) : AgreeOn q s s :=
  ⟨⟨rfl, rfl, rfl⟩, rfl, rfl, rfl⟩

theorem trans (h : AgreeOn q s s') (h' : AgreeOn q s' t) : AgreeOn q s t :=
  ⟨h.make.trans h'.make, h'.modules.trans h.modules, h'.failing.trans h.failing,
    h'.row.trans h.row⟩

theorem rawValue (h : AgreeOn q s s') : s'.rawValue q = s.rawValue q := by
  funext m
  simp only [rawValue_eq, defaultOf, h.row, h.make.defaults]

theorem values (h : AgreeOn q s s') : s'.values q = s.values q := by
  simp only [Simulator.values, h.modules, h.rawValue]

theorem checkModules (h : AgreeOn q s s') (modules : List Nat) :
    s'.checkModules modules = s.checkModules modules :=
  SameSetting.checkModules ⟨h.make, h.modules, h.failing⟩ modules

theorem readValues (h : AgreeOn q s s') {c : Channel} (hc : c.register = q) (modules : List Nat) :
    s'.readValues c modules = s.readValues c modules := by
  subst hc
  simp only [Simulator.readValues, h.checkModules, checkRegister_congr h.make, h.rawValue, present,
    h.make.converter]

/-- A property of the register reads the same in both states, or fails alike. -/
theorem result_read (h : AgreeOn q s s') (p : Property Channel) (hp : p.channel.register = q)
    (selector : Selector) :
    ((p.read selector).run detector s').result = ((p.read selector).run detector s).result := by
  rw [run_read, run_read, h.modules]
  cases selector.resolve s.modules with
  | error e => rfl
  | ok modules =>
    by_cases hempty : modules.isEmpty = true
    · simp only [hempty, ↓reduceIte]
    · simp only [hempty, Bool.false_eq_true, ↓reduceIte, h.readValues hp]
      cases s.readValues p.channel modules <;> rfl

end AgreeOn

theorem read_agreeOn (q : Register) (s : Simulator) (c : Channel) (modules : List Nat) :
    AgreeOn q s (s.read c modules).state :=
  ⟨⟨rfl, rfl, rfl⟩, rfl, rfl, rfl⟩

theorem write_agreeOn {q : Register} (s : Simulator) {c : Channel} (hc : c.register ≠ q)
    (value : Int32) (modules : List Nat) : AgreeOn q s (s.write c value modules).state := by
  rcases write_cases s c value modules with ⟨raw, _, _, _, _, hw⟩ | ⟨e, hw⟩
  · rw [hw]
    exact ⟨⟨rfl, rfl, rfl⟩, rfl, rfl, by simp [store, hc]⟩
  · rw [hw]
    exact .refl q s

/-- A program that writes to other registers only leaves everything that reads of this one can see.
-/
theorem run_agreeOn {α : Type} {q : Register} (p : Program Channel α) (s : Simulator)
    (h : ∀ w ∈ Exchange.writes (p.run detector s).record, w.1.channel.register ≠ q) :
    AgreeOn q s (p.run detector s).state := by
  induction p generalizing s with
  | done a => exact .refl q s
  | fail e => exact .refl q s
  | count next ih => exact ih s.modules s h
  | read c modules next ih =>
    refine (read_agreeOn q s c modules).trans (ih (s.read c modules).result _ ?_)
    intro w hw
    exact h w (by simpa [Program.run, Outcome.after] using hw)
  | write c value modules next ih =>
    have hc : c.register ≠ q :=
      h (⟨c, value, modules⟩, (s.write c value modules).result) List.mem_cons_self
    refine (write_agreeOn s hc value modules).trans (ih (s.write c value modules).result _ ?_)
    intro w hw
    exact h w (by simpa [Program.run, Outcome.after] using .inr hw)
  | emit ev next ih => exact ih s h

end DacBank.Simulator
