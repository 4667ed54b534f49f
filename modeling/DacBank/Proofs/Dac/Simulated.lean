import DacBank.Dac.Access
import DacBank.Proofs.Property.Progress
import DacBank.Proofs.Simulator.Access
import DacBank.Proofs.Simulator.Batch

namespace DacBank

namespace Simulator

/-- Calls for all modules of a register pass the checks. Without modules there are no calls. -/
def Answers (s : Simulator) (r : Register) : Prop :=
  ∀ m < s.modules, s.failing ≠ some m ∧ s.checkRegister r = .ok ()

/-- What a read of all modules of a register in steps gives. -/
def reading (s : Simulator) (r : Register) : Except DacError (List Int32) :=
  if s.modules = 0 then .ok []
  else (s.readValues ⟨r, .raw⟩ (List.range s.modules)).mapError .communication

theorem SameSetting.answers {s s' : Simulator} (h : SameSetting s s') {r : Register}
    (hr : s.Answers r) : s'.Answers r := by
  unfold Answers
  rw [h.modules, h.failing, checkRegister_congr h.make]
  exact hr

theorem reading_ok_iff {s : Simulator} {r : Register} {row : List Int32} :
    s.reading r = .ok row ↔ s.Answers r ∧ row = s.values r := by
  unfold reading Answers
  by_cases hnone : s.modules = 0
  · rw [if_pos hnone]
    simp [values, hnone, eq_comm]
  · rw [if_neg hnone]
    constructor
    · intro h
      cases hread : s.readValues ⟨r, .raw⟩ (List.range s.modules) with
      | error e =>
        rw [hread] at h
        cases h
      | ok found =>
        obtain ⟨hmodules, hr, hvalues⟩ := readValues_raw_ok hread
        rw [hread] at h
        cases h
        refine ⟨fun m hm => ⟨?_, hr⟩, hvalues⟩
        exact (checkModules_ok_iff.mp hmodules m (List.mem_range.mpr hm)).2
    · rintro ⟨hanswers, rfl⟩
      have hmodules : s.checkModules (List.range s.modules) = .ok () :=
        checkModules_ok_iff.mpr fun m hm =>
          ⟨List.mem_range.mp hm, (hanswers m (List.mem_range.mp hm)).1⟩
      rw [readValues_raw, hmodules, (hanswers 0 (Nat.pos_of_ne_zero hnone)).2]
      rfl

theorem length_of_reading {s : Simulator} {r : Register} {row : List Int32}
    (h : s.reading r = .ok row) : row.length = s.modules := by
  obtain ⟨_, rfl⟩ := reading_ok_iff.mp h
  simp [values]

/-- The detector once more reads were counted. -/
def afterReads (s : Simulator) (more : Nat) : Simulator :=
  { s with reads := s.reads + more }

theorem afterReads_sameSetting (s : Simulator) (more : Nat) : SameSetting s (s.afterReads more) :=
  ⟨⟨rfl, rfl, rfl⟩, rfl, rfl⟩

theorem afterReads_add (s : Simulator) (more further : Nat) :
    (s.afterReads more).afterReads further = s.afterReads (more + further) := by
  simp only [afterReads, Nat.add_assoc]

@[simp] theorem modules_afterReads (s : Simulator) (more : Nat) :
    (s.afterReads more).modules = s.modules :=
  rfl

@[simp] theorem reading_afterReads (s : Simulator) (more : Nat) (r : Register) :
    (s.afterReads more).reading r = s.reading r := by
  simp only [reading, modules_afterReads, readValues_raw,
    (afterReads_sameSetting s more).checkModules]
  rfl

/-- Run from here, the program comes to this result, and only reads are counted. -/
def Yields {α : Type} (s : Simulator) (p : Program Channel α) (result : Except DacError α) : Prop :=
  ∃ more, p.ending detector s = (result, s.afterReads more)

namespace Yields

variable {α β : Type} {s : Simulator}

theorem done (s : Simulator) (a : α) : s.Yields (.done a) (.ok a) :=
  ⟨0, rfl⟩

theorem bind {p : Program Channel α} {f : α → Program Channel β} {x : Except DacError α}
    {g : α → Except DacError β} (hp : s.Yields p x)
    (hf : ∀ a, x = .ok a → ∀ more, (s.afterReads more).Yields (f a) (g a)) :
    s.Yields (p >>= f) (x >>= g) := by
  obtain ⟨k, hp⟩ := hp
  cases x with
  | error e => exact ⟨k, Program.ending_bind_error hp⟩
  | ok a =>
    obtain ⟨k', hf⟩ := hf a rfl k
    refine ⟨k + k', (Program.ending_bind_ok hp).trans (hf.trans ?_)⟩
    rw [attempt_ok_bind, afterReads_add]

/-- By induction on the items: the reads of the earlier ones are counted, and nothing else. -/
theorem mapM {ι : Type} {p : ι → Program Channel α} {f : ι → Except DacError α} (items : List ι)
    (hp : ∀ i more, (s.afterReads more).Yields (p i) (f i)) :
    s.Yields (items.mapM p) (items.mapM f) := by
  induction items generalizing s with
  | nil => exact .done s []
  | cons i rest ih =>
    rw [List.mapM_cons, List.mapM_cons]
    refine Yields.bind (hp i 0) fun a _ more => ?_
    have hrest : (s.afterReads more).Yields (rest.mapM p) (rest.mapM f) := by
      refine ih fun j further => ?_
      rw [afterReads_add]
      exact hp j (more + further)
    exact hrest.bind fun rows _ _ => .done _ (a :: rows)

end Yields

end Simulator

open Simulator

namespace Property

theorem writeEach_carries (s : Simulator) (c : Channel) (modules : List Nat)
    (values : List Int32) :
    s.Carries (writeEach c modules values)
      (List.zipWith (fun m v => ⟨c, v, [m]⟩) modules values) := by
  induction modules generalizing s values with
  | nil => exact .done s
  | cons m modules ih =>
    cases values with
    | nil => exact .done s
    | cons v values => exact (Carries.set s c v [m]).bind fun s' _ => ih s' values

theorem broadcast_carries (s : Simulator) (c : Channel) (modules : List Nat) (value : Int32) :
    s.Carries (broadcast c modules value) (wanted c modules (.scalar value)) := by
  unfold broadcast wanted
  split
  · exact .done s
  · exact .set s c value modules

/-- A write that can be addressed carries out its batch. -/
theorem write_carries {s : Simulator} (p : Property Channel) {selector : Selector} {payload : Payload}
    {modules : List Nat} (hm : selector.resolve s.modules = .ok modules)
    (hfit : ∀ values, payload = .perModule values → values.length = modules.length) :
    s.Carries (p.write selector payload) (wanted p.channel modules payload) := by
  have hselect : (select selector : Program Channel _).ending detector s = (.ok modules, s) := by
    rw [Program.ending, run_select, hm]
  refine Carries.behind hselect ?_
  cases payload with
  | scalar value => exact (broadcast_carries s p.channel modules value).then_report _
  | perModule values =>
    simp only [ne_eq, hfit values rfl, not_true_eq_false, ↓reduceIte]
    exact (writeEach_carries s p.channel modules values).then_report _

end Property

namespace Dac

theorem get_yields (d : Dac) (s : Simulator) : s.Yields d.get (s.reading d.register) := by
  have hrun := run_read d.stepProperty .all s
  simp only [Selector.resolve, List.isEmpty_iff, List.range_eq_nil] at hrun
  by_cases hnone : s.modules = 0
  · rw [if_pos hnone] at hrun
    refine ⟨0, ?_⟩
    rw [get, getModules, Program.ending, hrun, reading, if_pos hnone]
    rfl
  · rw [if_neg hnone] at hrun
    refine ⟨1, ?_⟩
    rw [get, getModules, Program.ending, hrun, reading, if_neg hnone]
    change _ = ((s.readValues d.stepProperty.channel _).mapError _, _)
    cases s.readValues d.stepProperty.channel (List.range s.modules) <;> rfl

/-- What a write comes to does not depend on the warning in front of it. -/
theorem setModules_ending (d : Dac) (selector : Selector) (payload : Payload) (s : Simulator) :
    (d.setModules selector payload).ending detector s =
      (d.stepProperty.write selector payload).ending detector s := by
  have hwarn : (d.warnOutside payload).ending detector s = (.ok (), s) := by
    unfold warnOutside
    split <;> rfl
  exact Program.ending_bind_ok hwarn

theorem setModules_carries {s : Simulator} (d : Dac) {selector : Selector} {payload : Payload}
    {modules : List Nat} (hm : selector.resolve s.modules = .ok modules)
    (hfit : ∀ values, payload = .perModule values → values.length = modules.length) :
    s.Carries (d.setModules selector payload)
      (Property.wanted ⟨d.register, .raw⟩ modules payload) :=
  (d.setModules_ending selector payload s).trans (d.stepProperty.write_carries hm hfit)

end Dac

end DacBank
