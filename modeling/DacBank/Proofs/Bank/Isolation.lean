import DacBank.Bank.Request
import DacBank.Proofs.Dac.Recorded
import DacBank.Proofs.Simulator.Access

namespace DacBank.Bank

open Simulator

/-- The outcome of a request to the DAC of a name is that of the operation on this DAC. -/
theorem perform_one {b : Bank} {name : String} {d : Dac} (h : b.get name = .ok d)
    (request : DacRequest) : b.perform (.one name request) = performOn d request := by
  change Program.bind (Program.ofExcept (b.get name)) (fun d => performOn d request) = _
  rw [h]
  rfl

/-- Writing to a DAC leaves what is read from a DAC of another register, on every module. -/
theorem set_keeps_other_registers {b : Bank} {x y : String} {d e : Dac} (hx : b.get x = .ok d)
    (hy : b.get y = .ok e) (hr : d.register ≠ e.register) (payload : Payload) (s : Simulator) :
    let s' := ((b.perform (.one x (.set payload))).run detector s).state
    ((b.perform (.one y .get)).run detector s').result =
        ((b.perform (.one y .get)).run detector s).result ∧
      s'.values e.register = s.values e.register := by
  intro s'
  have hs' : s' = ((d.set payload).run detector s).state := by
    simp only [s', perform_one hx, performOn, Program.run_map]
  have hagree : AgreeOn e.register s s' := by
    rw [hs']
    apply run_agreeOn
    intro w hw
    rw [Dac.setModules_channel (Program.run_recorded detector (d.set payload) s) w hw]
    exact hr
  refine ⟨?_, hagree.values⟩
  simp only [perform_one hy, performOn, Program.run_map]
  exact congrArg _ (hagree.result_read e.stepProperty rfl .all)

/-- `vth1` of a Mythen3 detector is written, and `vth2` keeps its own values. -/
theorem set_keeps_other_registers_vth2 :
    let b : Bank := .ofDistinct Mythen3.dacs (by decide)
    let s := Simulator.ofDacs 3 Mythen3.dacs
    let s' := ((b.perform (.one "vth1" (.set (.perModule [7, 8, 9])))).run detector s).state
    s'.values ⟨6⟩ = [7, 8, 9] ∧
      ((b.perform (.one "vth2" .get)).run detector s').result =
        ((b.perform (.one "vth2" .get)).run detector s).result := by
  intro b s s'
  have hx : b.get "vth1" = .ok (Mythen3.dac .vth1) := by decide
  have hy : b.get "vth2" = .ok (Mythen3.dac .vth2) := by decide
  have hwritten : s'.values ⟨6⟩ = [7, 8, 9] := by decide
  exact ⟨hwritten, (set_keeps_other_registers hx hy (by decide) (.perModule [7, 8, 9]) s).1⟩

/-- Two names for one register. -/
def sharingTable : Table :=
  ⟨none, [⟨"a", ⟨0⟩, 0, 10, 1⟩, ⟨"b", ⟨0⟩, 0, 10, 2⟩]⟩

/-- Different names alone give no values of their own: a table with two names for one register is
valid, and writing to the one changes what is read from the other. -/
theorem set_changes_sharing_dac :
    ¬ ∀ (t : Table) (b : Bank) (s : Simulator) (x y : String) (payload : Payload),
      t.validate = .ok () → ofDacs t.dacs = .ok b → Reachable s →
      x ∈ b.names → y ∈ b.names → x ≠ y →
      let o := (b.perform (.one x (.set payload))).run detector s
      o.result = .ok .nothing →
      ((b.perform (.one y .get)).run detector o.state).result =
        ((b.perform (.one y .get)).run detector s).result := by
  intro h
  let b : Bank := .ofDistinct sharingTable.dacs (by decide)
  have hb : ofDacs sharingTable.dacs = .ok b := rfl
  have hs : Reachable (Simulator.ofDacs 2 sharingTable.dacs) :=
    ⟨⟨2, some sharingTable.dacs, .mythen3⟩, [], rfl⟩
  have hkept := h sharingTable b _ "a" "b" (.scalar 7) rfl hb hs (by decide) (by decide) (by decide)
    rfl
  have hbefore : ((b.perform (.one "b" .get)).run detector
      (Simulator.ofDacs 2 sharingTable.dacs)).result = .ok (.values [2, 2]) := rfl
  rw [hbefore] at hkept
  exact absurd hkept (by decide)

end DacBank.Bank
