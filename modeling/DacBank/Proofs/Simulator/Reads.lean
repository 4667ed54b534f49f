import DacBank.Proofs.Dac.Simulated
import DacBank.Proofs.Program.ReadsOnly

namespace DacBank

namespace Simulator

section
variable (s : Simulator) (more : Nat)

theorem afterReads_read (c : Channel) (modules : List Nat) :
    (s.afterReads more).read c modules =
      { s.read c modules with state := (s.read c modules).state.afterReads more } := by
  have hvalues : (s.afterReads more).readValues c modules = s.readValues c modules := by
    rw [readValues, (afterReads_sameSetting s more).checkModules]
    rfl
  have hcount : s.reads + more + 1 = s.reads + 1 + more := Nat.add_right_comm ..
  rw [read, read, hvalues]
  simp only [afterReads, hcount]

theorem afterReads_write (c : Channel) (value : Int32) (modules : List Nat) :
    (s.afterReads more).write c value modules =
      { s.write c value modules with
        state := (s.write c value modules).state.afterReads more } := by
  have hspend : (s.afterReads more).spend = (s.spend).map (·.afterReads more) := by
    rcases hb : s.budget with _ | _ | left <;> simp [spend, hb, afterReads, Except.map]
  rw [write, write, tryWrite_eq_screen, tryWrite_eq_screen,
    (afterReads_sameSetting s more).screen, hspend]
  cases s.screen c value modules with
  | error e => rfl
  | ok raw => cases s.spend <;> rfl

/-- Whatever is done next, the detector differs in its counter of reads at most. -/
theorem afterReads_step (a : Action) :
    ∃ still, (s.afterReads more).step a = (s.step a).afterReads still := by
  cases a with
  | read c modules => exact ⟨more, congrArg Reply.state (s.afterReads_read more c modules)⟩
  | write c value modules =>
    exact ⟨more, congrArg Reply.state (s.afterReads_write more c value modules)⟩
  | change c =>
    cases c with
    | modules count | failing module | budget left => exact ⟨more, rfl⟩
    | counters => exact ⟨0, rfl⟩

end

/-- By induction on the program: at each call the same answer comes back. -/
theorem run_afterReads {α : Type} (p : Program Channel α) (s : Simulator) (more : Nat) :
    p.run detector (s.afterReads more) =
      { p.run detector s with state := (p.run detector s).state.afterReads more } := by
  induction p generalizing s with
  | done a | fail e => rfl
  | count next ih => exact congrArg (Outcome.after [.counted s.modules]) (ih s.modules s)
  | read c modules next ih =>
    simp only [Program.run, detector_read, afterReads_read, ih]
    rfl
  | write c value modules next ih =>
    simp only [Program.run, detector_write, afterReads_write, ih]
    rfl
  | emit ev next ih => exact congrArg (Outcome.after [.reported ev]) (ih s)

theorem state_of_readsOnly {α : Type} {p : Program Channel α} (h : p.ReadsOnly) (s : Simulator) :
    ∃ more, (p.run detector s).state = s.afterReads more := by
  induction p generalizing s with
  | done a | fail e => exact ⟨0, rfl⟩
  | count next ih => exact ih s.modules (h s.modules) s
  | read c modules next ih =>
    obtain ⟨more, hstate⟩ := ih _ (h (s.read c modules).result) (s.afterReads 1)
    exact ⟨1 + more, hstate.trans (s.afterReads_add 1 more)⟩
  | write c value modules next ih => exact h.elim
  | emit ev next ih => exact ih h s

end Simulator

end DacBank
