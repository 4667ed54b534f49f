import DacBank.Proofs.Bank.Reset
import DacBank.Proofs.Simulator.Reach

namespace DacBank

open Simulator

/-- Whether an event tells how the reset of a bank ended. -/
def Event.endsReset : Event → Bool
  | .allReset _ => true
  | .resetAborted .. => true
  | _ => false

namespace Dac

/-- The write of a reset. -/
def resetCall (d : Dac) (modules : Nat) : WriteCall Channel :=
  ⟨⟨d.register, .raw⟩, d.default, List.range modules⟩

theorem run_reset_empty (d : Dac) {s : Simulator} (idle : s.modules = 0) :
    d.reset.run detector s =
      ⟨.ok (), [.counted 0, .reported (.broadcast d.name [] d.default)], s⟩ := by
  refine (Program.run_bind detector (Property.select .all) _ s).trans ?_
  rw [run_select, Selector.resolve, idle]
  rfl

/-- The one write of a reset behind the number of modules. -/
theorem run_reset (d : Dac) {s : Simulator} (pos : 0 < s.modules) :
    d.reset.run detector s =
      ((do
        Program.set ⟨d.register, .raw⟩ d.default (List.range s.modules)
        Program.report (.broadcast d.name (List.range s.modules) d.default) :
          Program Channel Unit).run detector s).after [.counted s.modules] := by
  have hmodules : ¬ (List.range s.modules).isEmpty = true := by
    simp only [List.isEmpty_iff, List.range_eq_nil]
    omega
  refine (Program.run_bind detector (Property.select .all) _ s).trans ?_
  rw [run_select, Selector.resolve]
  simp only [Property.broadcast, if_neg hmodules]
  rfl

theorem run_reset_made (d : Dac) {s : Simulator} (pos : 0 < s.modules)
    (made : (s.carry (d.resetCall s.modules)).result = .ok ()) :
    d.reset.run detector s =
      ⟨.ok (),
        [.counted s.modules, (d.resetCall s.modules).exchange (.ok ()),
          .reported (.simulatedWrite ⟨d.register, .raw⟩ d.default d.default (List.range s.modules)),
          .reported (.broadcast d.name (List.range s.modules) d.default)],
        (s.carry (d.resetCall s.modules)).state⟩ := by
  have hset : (Program.set ⟨d.register, .raw⟩ d.default (List.range s.modules)).run detector s =
      ⟨.ok (), [(d.resetCall s.modules).exchange (.ok ()),
        .reported (.simulatedWrite ⟨d.register, .raw⟩ d.default d.default (List.range s.modules))],
        (s.carry (d.resetCall s.modules)).state⟩ := by
    rcases write_cases s ⟨d.register, .raw⟩ d.default (List.range s.modules) with
      ⟨raw, _, _, ha, _, hw⟩ | ⟨e, hw⟩
    · cases ha
      simp only [Program.set, Program.run, detector_write, carry, resetCall, hw]
      rfl
    · rw [carry, resetCall, hw] at made
      cases made
  rw [run_reset d pos, Program.run_bind_ok (congrArg Outcome.result hset), hset]
  rfl

theorem run_reset_refused (d : Dac) {s : Simulator} (pos : 0 < s.modules) {e : DetectorError}
    (refused : (s.carry (d.resetCall s.modules)).result = .error e) :
    d.reset.run detector s =
      ⟨.error (.communication e),
        [.counted s.modules, (d.resetCall s.modules).exchange (.error e)], s⟩ := by
  have hset : (Program.set ⟨d.register, .raw⟩ d.default (List.range s.modules)).run detector s =
      ⟨.error (.communication e), [(d.resetCall s.modules).exchange (.error e)], s⟩ := by
    have hw : s.write ⟨d.register, .raw⟩ d.default (List.range s.modules) = ⟨.error e, [], s⟩ :=
      carry_error refused
    simp only [Program.set, Program.run, detector_write, hw]
    rfl
  rw [run_reset d pos, Program.run_bind_error (congrArg Outcome.result hset), hset]
  rfl

end Dac

namespace Bank

theorem resets_zero (dacs : List Dac) : resets 0 dacs = [] := by
  rw [resets, List.flatMap_eq_nil_iff]
  intro d _
  rfl

theorem resets_eq_map {modules : Nat} (pos : 0 < modules) (dacs : List Dac) :
    resets modules dacs = dacs.map fun d => d.resetCall modules := by
  have hmodules : List.range modules ≠ [] := by
    rw [ne_eq, List.range_eq_nil]
    omega
  simp only [resets, Property.wanted_scalar _ _ hmodules]
  exact List.flatMap_pure_eq_map ..

section
variable {d : Dac} {rest : List Dac} {s : Simulator}

theorem run_resetEach_made (made : (d.reset.run detector s).result = .ok ()) :
    (resetEach (d :: rest)).run detector s =
      ((resetEach rest).run detector (d.reset.run detector s).state).after
        (d.reset.run detector s).record := by
  have hreset : (d.reset.reportFailure (.resetAborted d.name)).run detector s =
      d.reset.run detector s := by
    rw [Program.run_reportFailure, made]
  rw [resetEach, Program.run_bind_ok ((congrArg Outcome.result hreset).trans made), hreset]

theorem run_resetEach_refused {e : DacError} (refused : (d.reset.run detector s).result = .error e) :
    (resetEach (d :: rest)).run detector s =
      ⟨.error e, (d.reset.run detector s).record ++ [.reported (.resetAborted d.name e)],
        (d.reset.run detector s).state⟩ := by
  have hreset : (d.reset.reportFailure (.resetAborted d.name)).run detector s =
      { d.reset.run detector s with
        record := (d.reset.run detector s).record ++ [.reported (.resetAborted d.name e)] } := by
    rw [Program.run_reportFailure, refused]
  rw [resetEach, Program.run_bind_error ((congrArg Outcome.result hreset).trans refused), hreset]

end

/-- How the record of a reset of some DACs ends: with nothing said, or with a warning that names the
DAC whose write was refused. -/
inductive ResetEnd (dacs : List Dac) (t : List (Exchange Channel)) :
    Except DacError Unit → Prop where
  | finished (quiet : (t.filterMap Exchange.event?).filter Event.endsReset = []) :
      ResetEnd dacs t (.ok ())
  | broken {before after : List Dac} {d : Dac} {e : DacError} (split : dacs = before ++ d :: after)
      (made : (Exchange.writes t).countP (·.2.isOk) = before.length)
      (told : (t.filterMap Exchange.event?).filter Event.endsReset = [.resetAborted d.name e]) :
      ResetEnd dacs t (.error e)

theorem resetEach_end (dacs : List Dac) {s : Simulator} (pos : 0 < s.modules) :
    let o := (resetEach dacs).run detector s
    Property.Progress (resets s.modules dacs) o.record o.result ∧
      ResetEnd dacs o.record o.result := by
  rw [resets_eq_map pos]
  induction dacs generalizing s with
  | nil => exact ⟨.finished rfl, .finished rfl⟩
  | cons d rest ih =>
    cases hcall : (s.carry (d.resetCall s.modules)).result with
    | ok =>
      have hreset := d.run_reset_made pos hcall
      have hmodules := (carry_sameSetting s (d.resetCall s.modules)).modules
      have hfirst : Exchange.writes (d.reset.run detector s).record =
          Property.accepted [d.resetCall s.modules] := by
        rw [hreset]
        rfl
      rw [run_resetEach_made (congrArg Outcome.result hreset)]
      rw [hreset] at hfirst ⊢
      obtain ⟨hprogress, hend⟩ := ih (hmodules ▸ pos)
      rw [hmodules] at hprogress
      refine ⟨hprogress.after hfirst, ?_⟩
      generalize (resetEach rest).run detector (s.carry (d.resetCall s.modules)).state = o at hend ⊢
      obtain ⟨r, t, s'⟩ := o
      cases hend with
      | finished quiet => exact .finished quiet
      | @broken before after refusing e split made told =>
        have hsplit : d :: rest = (d :: before) ++ refusing :: after := congrArg (d :: ·) split
        refine .broken hsplit ?_ told
        exact (List.countP_cons_of_pos rfl).trans (congrArg (· + 1) made)
    | error e =>
      have hreset := d.run_reset_refused pos hcall
      rw [run_resetEach_refused (congrArg Outcome.result hreset), hreset]
      have hsplit : d :: rest = [] ++ d :: rest := rfl
      exact ⟨.refused [] _ _ rfl rfl rfl, .broken hsplit rfl rfl⟩

/-- A reset of the whole bank succeeded, and the log says so once. -/
def Completed (b : Bank) (o : Outcome Channel Simulator Unit) : Prop :=
  o.result = .ok () ∧ o.events.filter Event.endsReset = [.allReset b.dacs.length]

/-- A reset of the whole bank was broken off at the DAC of place `i`, and the log says so once. -/
def BrokenOff (b : Bank) (i : Nat) (e : DetectorError) (o : Outcome Channel Simulator Unit) :
    Prop :=
  ∃ d, b.dacs[i]? = some d ∧ o.result = .error (.communication e) ∧
    o.events.filter Event.endsReset = [.resetAborted d.name (.communication e)]

section
variable {b : Bank} {s : Simulator} {k : Nat} {e : DetectorError}

theorem completed_of_resetEach (made : ((resetEach b.dacs).run detector s).result = .ok ())
    (quiet : ((resetEach b.dacs).run detector s).events.filter Event.endsReset = []) :
    b.Completed (b.resetAll.run detector s) := by
  rw [resetAll, Program.run_bind_ok made]
  refine ⟨rfl, ?_⟩
  rw [Outcome.events] at quiet
  simp only [Outcome.events, Outcome.after, List.filterMap_append, List.filter_append, quiet]
  rfl

/-- Without modules no DAC asks for a write. -/
theorem resetEach_idle (dacs : List Dac) (idle : s.modules = 0) :
    let o := (resetEach dacs).run detector s
    o.result = .ok () ∧ o.events.filter Event.endsReset = [] ∧ Exchange.writes o.record = [] := by
  induction dacs with
  | nil => exact ⟨rfl, rfl, rfl⟩
  | cons d rest ih =>
    have hreset := d.run_reset_empty idle
    rw [run_resetEach_made (congrArg Outcome.result hreset), hreset]
    exact ih

/-- What is written tells where the reset ended, and so does the log. -/
theorem resetAll_end (pos : 0 < s.modules)
    (h : s.Reaches (resets s.modules b.dacs) k e ((resetEach b.dacs).run detector s)) :
    if k = b.dacs.length then b.Completed (b.resetAll.run detector s)
    else b.BrokenOff k e (b.resetAll.run detector s) := by
  obtain ⟨_, hend⟩ := resetEach_end b.dacs pos
  have hresult := h.result
  rw [resets_eq_map pos, List.length_map] at hresult
  split
  · rename_i hall
    rw [if_pos hall] at hresult
    rw [hresult] at hend
    cases hend with
    | finished quiet => exact completed_of_resetEach hresult quiet
  · rename_i hshort
    rw [if_neg hshort] at hresult
    rw [hresult] at hend
    cases hend with
    | @broken before after d _ split made told =>
      have hk : k = before.length := h.countP_writes.symm.trans made
      refine ⟨d, by simp [split, hk], ?_, ?_⟩
      · rw [resetAll, Program.run_bind_error hresult]
      · rw [resetAll, Program.run_bind_error hresult]
        exact told

/-- Without modules the reset is done at once. -/
theorem resetAll_idle (b : Bank) (idle : s.modules = 0) :
    let o := b.resetAll.run detector s
    b.Completed o ∧ Exchange.writes o.record = [] ∧ o.state = s := by
  obtain ⟨made, quiet, hwrites⟩ := resetEach_idle b.dacs idle
  refine ⟨completed_of_resetEach made quiet, ?_, ?_⟩
  · rw [resetAll, Program.run_bind_ok made]
    exact (Exchange.writes_append ..).trans (by rw [hwrites]; rfl)
  · rw [(b.resetAll_carries s).state, idle, resets_zero]
    rfl

/-- By what the writes are refused for, how far a reset comes. -/
theorem resetEach_reaches (pos : 0 < s.modules) (le : k ≤ b.dacs.length)
    (first : ∀ d ∈ b.dacs.take k, s.Takes (d.resetCall s.modules)) (left : s.Affords k)
    (next : ∀ d, b.dacs[k]? = some d → s.Refuses k (d.resetCall s.modules) e) :
    s.Reaches (resets s.modules b.dacs) k e ((resetEach b.dacs).run detector s) := by
  refine (resetEach_carries b.dacs s).reaches (resetEach_end b.dacs pos).1 resets_raw ?_ ?_ left ?_
  all_goals rw [resets_eq_map pos]
  · rwa [List.length_map]
  · rw [← List.map_take]
    exact List.forall_mem_map.mpr first
  · intro w hw
    rw [List.getElem?_map, Option.map_eq_some_iff] at hw
    obtain ⟨d, hd, rfl⟩ := hw
    exact next d hd

/-- A failing module refuses the write of the first DAC. -/
theorem resetAll_failing {f : Nat} (nonempty : b.dacs ≠ []) (failing : s.failing = some f)
    (below : f < s.modules) :
    let o := b.resetAll.run detector s
    b.BrokenOff 0 (.module f "simulated communication failure") o ∧ o.state = s := by
  have pos : 0 < s.modules := Nat.zero_lt_of_lt below
  have hcheck : s.checkModules (List.range s.modules) = _ :=
    checkModules_failing failing (List.mem_range.mpr below) fun m hm => List.mem_range.mp hm
  have hrefuses (d : Dac) : s.Refuses 0 (d.resetCall s.modules)
      (.module f "simulated communication failure") := by
    refine .check ?_
    rw [screen, Dac.resetCall, hcheck]
    rfl
  constructor
  · have hreaches : s.Reaches (resets s.modules b.dacs) 0 _ _ :=
      resetEach_reaches pos (Nat.zero_le _) (fun _ hd => absurd hd List.not_mem_nil)
        (fun _ _ => Nat.zero_le _) fun d _ => hrefuses d
    have hend := resetAll_end pos hreaches
    rwa [if_neg] at hend
    exact fun h => nonempty (List.length_eq_zero_iff.mp h.symm)
  · obtain ⟨d, rest, hdacs⟩ := List.exists_cons_of_ne_nil nonempty
    have hbatch : s.writeAll ([] ++ d.resetCall s.modules :: rest.map (·.resetCall s.modules)) = _ :=
      writeAll_refused rfl (hrefuses d) _
    rw [(b.resetAll_carries s).state, resets_eq_map pos, hdacs]
    exact congrArg Prod.snd hbatch

/-- With all modules in order, only the budget can break the reset off. -/
theorem resetEach_spent (pos : 0 < s.modules)
    (known : ∀ d ∈ b.dacs, s.checkRegister d.register = .ok ())
    (sound : ∀ f < s.modules, s.failing ≠ some f) :
    s.Reaches (resets s.modules b.dacs) (s.affordable b.dacs.length) .timeout
      ((resetEach b.dacs).run detector s) := by
  have htakes (d : Dac) (hd : d ∈ b.dacs) : s.Takes (d.resetCall s.modules) := by
    refine ⟨checkModules_ok_iff.mpr fun m hm => ?_, known d hd, _, rfl⟩
    exact ⟨List.mem_range.mp hm, sound m (List.mem_range.mp hm)⟩
  refine resetEach_reaches pos (s.affordable_le _)
    (fun d hd => htakes d (List.mem_of_mem_take hd)) (s.affords_affordable _) ?_
  intro d hd
  obtain ⟨hlt, _⟩ := List.getElem?_eq_some_iff.mp hd
  exact .spent (htakes d (List.mem_of_getElem? hd)) (budget_of_affordable_lt hlt)

end

/-- The writes of a reset let the last DAC of a register have its way. -/
theorem foldl_lay_resets (dacs : List Dac) (r : Register) {modules : Nat} {values : List Int32}
    (h : values.length = modules) :
    (resets modules dacs).foldl (lay r) values =
      match dacs.reverse.find? (·.register = r) with
      | some d => List.replicate modules d.default
      | none => values := by
  apply List.ext_getElem?
  intro m
  rw [getElem?_foldl_lay]
  by_cases hm : m < modules
  · rw [List.getElem?_eq_getElem (h.symm ▸ hm), Option.map_some, foldl_leave_resets hm,
      get?_defaultsOf]
    cases dacs.reverse.find? (·.register = r) with
    | some d => simp [hm]
    | none => simp
  · have hle : values.length ≤ m := h ▸ Nat.le_of_not_lt hm
    rw [List.getElem?_eq_none hle, Option.map_none]
    split
    · exact (List.getElem?_eq_none (by simpa using Nat.le_of_not_lt hm)).symm
    · exact (List.getElem?_eq_none hle).symm

/-- How far a reset of a bank comes. Without modules it is done at once. A failing module breaks it
off at the first DAC, and then nothing has changed. Otherwise each DAC takes one write for all
modules, and as many are reset as there are writes left: each of their registers holds the default
of the last of them that has it, and every other register what it held before. The log tells once
how the reset ended, with the DAC at which it was broken off. -/
theorem resetAll_resets_first_dacs {b : Bank} {s : Simulator} (nonempty : b.dacs ≠ [])
    (known : ∀ d ∈ b.dacs, s.checkRegister d.register = .ok ()) :
    let o := b.resetAll.run detector s
    let n := b.dacs.length
    let k := s.affordable n
    (s.modules = 0 → b.Completed o ∧ Exchange.writes o.record = [] ∧ o.state = s) ∧
      (∀ f < s.modules, s.failing = some f →
        b.BrokenOff 0 (.module f "simulated communication failure") o ∧ o.state = s) ∧
      (0 < s.modules → (∀ f < s.modules, s.failing ≠ some f) →
        (if k = n then b.Completed o else b.BrokenOff k .timeout o) ∧
          (k = n ↔ s.Affords n) ∧
          s.Reaches (b.dacs.map (·.resetCall s.modules)) k .timeout o ∧
          ∀ r, o.state.values r =
            match (b.dacs.take k).reverse.find? (·.register = r) with
            | some d => List.replicate s.modules d.default
            | none => s.values r) := by
  intro o n k
  refine ⟨b.resetAll_idle, fun f below failing => resetAll_failing nonempty failing below, ?_⟩
  intro pos sound
  have heach := resetEach_spent pos known sound
  have hreaches : s.Reaches (resets s.modules b.dacs) k .timeout o := heach.then_report _
  rw [resets_eq_map pos] at hreaches
  refine ⟨resetAll_end pos heach, affordable_eq_iff, hreaches, ?_⟩
  intro r
  have hlength : (s.values r).length = s.modules := by simp [values]
  rw [hreaches.values, ← List.map_take, ← resets_eq_map pos, foldl_lay_resets _ r hlength]

/-- The first and the third DAC share a register. With two writes the reset ends at the third DAC,
and with a failing module at the first one. -/
theorem resetAll_resets_first_dacs_shared :
    let b : Bank := .ofDistinct [⟨"vth1", ⟨0⟩, 0, 4000, 1200⟩, ⟨"vth2", ⟨1⟩, 0, 4000, 1000⟩,
      ⟨"vth3", ⟨0⟩, 0, 4000, 700⟩] (by decide)
    let few := (Simulator.ofModules 2).failAfterWrites (some 2)
    let broken := few.failModule (some 1)
    let empty := Simulator.ofModules 0
    let x := b.resetAll.run detector few
    let y := b.resetAll.run detector broken
    b.dacs ≠ [] ∧ (∀ d ∈ b.dacs, few.checkRegister d.register = .ok ()) ∧
      b.BrokenOff 2 .timeout x ∧ x.state.values ⟨0⟩ = [1200, 1200] ∧
      x.state.values ⟨1⟩ = [1000, 1000] ∧
      (∀ d ∈ b.dacs, broken.checkRegister d.register = .ok ()) ∧
      b.BrokenOff 0 (.module 1 "simulated communication failure") y ∧ y.state = broken ∧
      (∀ d ∈ b.dacs, empty.checkRegister d.register = .ok ()) ∧
      b.Completed (b.resetAll.run detector empty) := by
  intro b few broken empty x y
  have nonempty : b.dacs ≠ [] := List.cons_ne_nil _ _
  have known (s : Simulator) (h : s.knownOnly = false) :
      ∀ d ∈ b.dacs, s.checkRegister d.register = .ok () := by simp [checkRegister, h]
  obtain ⟨_, _, hfew⟩ := resetAll_resets_first_dacs nonempty (known few rfl)
  obtain ⟨hx, _, _, hvalues⟩ := hfew (by decide) fun _ _ => (Option.some_ne_none _).symm
  obtain ⟨_, hbroken, _⟩ := resetAll_resets_first_dacs nonempty (known broken rfl)
  obtain ⟨hy, hstate⟩ := hbroken 1 (by decide) rfl
  obtain ⟨hempty, _⟩ := resetAll_resets_first_dacs nonempty (known empty rfl)
  exact ⟨nonempty, known few rfl, hx, hvalues ⟨0⟩, hvalues ⟨1⟩, known broken rfl, hy, hstate,
    known empty rfl, (hempty rfl).1⟩

end Bank

end DacBank
