import DacBank.Proofs.Bank.Moves
import DacBank.Proofs.Bank.Validation
import DacBank.Proofs.Dac.Simulated

namespace DacBank

open Simulator

theorem Dac.reset_carries (d : Dac) (s : Simulator) :
    s.Carries d.reset
      (Property.wanted ⟨d.register, .raw⟩ (List.range s.modules) (.scalar d.default)) := by
  have hall : Selector.all.resolve s.modules = .ok (List.range s.modules) := rfl
  exact d.stepProperty.write_carries hall nofun

namespace Bank

/-- The defaults of some DACs, each for all modules, in the order of the DACs. -/
def resets (modules : Nat) (dacs : List Dac) : List (WriteCall Channel) :=
  dacs.flatMap fun d =>
    Property.wanted ⟨d.register, .raw⟩ (List.range modules) (.scalar d.default)

/-- By induction on the DACs: a reset does not change the number of modules. -/
theorem resetEach_carries (dacs : List Dac) (s : Simulator) :
    s.Carries (resetEach dacs) (resets s.modules dacs) := by
  induction dacs generalizing s with
  | nil => exact .done s
  | cons d rest ih =>
    have hreset : s.Carries (d.reset.reportFailure (.resetAborted d.name)) _ :=
      (Program.ending_reportFailure ..).trans (d.reset_carries s)
    refine hreset.bind fun s' hs => ?_
    have hrest := ih s'
    rw [hs.modules] at hrest
    exact hrest

theorem resetAll_carries (b : Bank) (s : Simulator) :
    s.Carries b.resetAll (resets s.modules b.dacs) :=
  (resetEach_carries b.dacs s).then_report _

/-- By induction on the DACs from the last one back: both loops let the later DAC have its way. -/
theorem foldl_leave_resets {modules m : Nat} (hm : m < modules) (dacs : List Dac) (r : Register)
    (old : Int32) :
    (resets modules dacs).foldl (leave r m) old = ((defaultsOf dacs).get? r).getD old := by
  induction dacs using List.reverseRecOn with
  | nil => rfl
  | append_singleton dacs d ih =>
    have hmodules : ¬ (List.range modules).isEmpty = true := by
      simp only [List.isEmpty_iff, List.range_eq_nil]
      omega
    have hresets : resets modules (dacs ++ [d]) =
        resets modules dacs ++ [⟨⟨d.register, .raw⟩, d.default, List.range modules⟩] := by
      simp only [resets, List.flatMap_append, List.flatMap_singleton, Property.wanted,
        if_neg hmodules]
    rw [hresets, defaultsOf_append_singleton, List.foldl_append, ih, RegisterFile.get?_insert,
      List.foldl_cons, List.foldl_nil, leave]
    by_cases hr : d.register = r
    · simp [hr, hm]
    · simp [hr]

theorem resets_raw {modules : Nat} {dacs : List Dac} :
    ∀ w ∈ resets modules dacs, w.channel.unit = .raw := by
  intro w hw
  obtain ⟨d, _, hd⟩ := List.mem_flatMap.mp hw
  rw [Property.wanted_channel w hd]

/-- A module then holds the default that its register was made with. A register without one keeps
its value. -/
theorem rawValue_resetAll {b : Bank} {s : Simulator}
    (h : (b.resetAll.run detector s).result = .ok ()) (r : Register) {m : Nat}
    (hm : m < s.modules) :
    (b.resetAll.run detector s).state.rawValue r m =
      ((defaultsOf b.dacs).get? r).getD (s.rawValue r m) := by
  have hcarries := b.resetAll_carries s
  rw [hcarries.state, rawValue_writeAll resets_raw (hcarries.ok_iff.mp h) r hm,
    foldl_leave_resets hm]

end Bank

/-- A detector that knows its registers holds nothing in the others. -/
theorem Simulator.Fits.rawValue_unknown {s : Simulator} (h : s.Fits) (known : s.knownOnly = true)
    {r : Register} (hr : s.defaults.get? r = none) (m : Nat) : s.rawValue r m = 0 := by
  have hstored : s.stored.get? r = none := by
    cases hrow : s.stored.get? r with
    | none => rfl
    | some values =>
      have hcheck := h.known _ (RegisterFile.mem_of_get? hrow)
      exact absurd hr (checkRegister_ok_iff.mp hcheck known)
  rw [rawValue, hstored, hr]
  rfl

namespace Bank

/-- Whatever was asked of a bank before, and whatever was done to its detector directly: a reset
that succeeds leaves in every register what it holds in a new detector that is made of the DACs of
the bank and has as many modules. -/
theorem resetAll_restores_defaults {dacs : List Dac} {b : Bank} (made : ofDacs dacs = .ok b)
    (modules : Nat) (c : Converter) (moves : List Move) :
    let start := (Simulator.ofDacs modules dacs).withConverter c
    let s := (b.serve detector (moves.map Move.step) start).2
    let o := b.resetAll.run detector s
    o.result = .ok () →
      ∀ r, o.state.values r = (Simulator.ofDacs o.state.modules dacs).values r := by
  intro start s o reset r
  let u : Setup := ⟨modules, some dacs, c⟩
  obtain ⟨actions, hs⟩ : ∃ actions, s = u.start.run actions := b.exists_run_of_serve moves start
  have hmake : SameMake u.start s := hs ▸ run_sameMake u.start actions
  have hfits : s.Fits := hs ▸ u.fits_start.run actions
  have hmodules : o.state.modules = s.modules := by
    rw [(b.resetAll_carries s).state]
    exact (writeAll_sameSetting s _).modules
  rw [values, values]
  apply List.map_congr_left
  intro m hm
  have hm : m < s.modules := hmodules ▸ List.mem_range.mp hm
  have hheld : o.state.rawValue r m = ((defaultsOf dacs).get? r).getD (s.rawValue r m) :=
    dacs_of_ofDacs made ▸ rawValue_resetAll reset r hm
  have hfresh : (Simulator.ofDacs o.state.modules dacs).rawValue r m =
      ((defaultsOf dacs).get? r).getD 0 := rfl
  rw [hheld, hfresh]
  cases hr : (defaultsOf dacs).get? r with
  | some value => rfl
  | none => exact hfits.rawValue_unknown hmake.knownOnly (hmake.defaults ▸ hr) m

/-- The first and the third DAC share a register. Two modules were lost and one came back, and an
earlier reset came no further than the first DAC. -/
theorem resetAll_restores_defaults_shared :
    let dacs : List Dac := [⟨"vth1", ⟨0⟩, 0, 4000, 1200⟩, ⟨"vth2", ⟨1⟩, 0, 4000, 1000⟩,
      ⟨"vth3", ⟨0⟩, 0, 4000, 700⟩]
    let b : Bank := .ofDistinct dacs (by decide)
    let moves : List Move := [.request (.one "vth1" (.set (.perModule [1, 2, 3]))),
      .direct (.change (.modules 1)), .direct (.change (.modules 2)),
      .direct (.change (.budget (some 1))), .request .resetAll, .direct (.change (.budget none)),
      .direct (.write ⟨⟨1⟩, .raw⟩ 9 [1])]
    let start := (Simulator.ofDacs 3 dacs).withConverter .mythen3
    let s := (b.serve detector (moves.map Move.step) start).2
    let o := b.resetAll.run detector s
    ofDacs dacs = .ok b ∧ s.values ⟨0⟩ = [1200, 1200] ∧ s.values ⟨1⟩ = [1000, 9] ∧
      o.result = .ok () ∧ o.state.values ⟨0⟩ = [700, 700] ∧ o.state.values ⟨1⟩ = [1000, 1000] := by
  intro dacs b moves start s o
  have made : ofDacs dacs = .ok b := rfl
  have reset : o.result = .ok () := by decide +kernel
  have hrestored := resetAll_restores_defaults made 3 .mythen3 moves reset
  refine ⟨made, by decide +kernel, by decide +kernel, reset, ?_, ?_⟩
  · exact (hrestored ⟨0⟩).trans (by decide +kernel)
  · exact (hrestored ⟨1⟩).trans (by decide +kernel)

end Bank

end DacBank
