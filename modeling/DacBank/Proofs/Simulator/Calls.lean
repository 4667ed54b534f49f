import DacBank.Simulator
import DacBank.Proofs.Attempts

namespace DacBank

namespace ModuleValues

theorem getElem?_setAll (value : Int32) (modules : List Nat) (values : List Int32) (m : Nat) :
    (setAll value modules values)[m]? =
      if m ∈ modules ∧ m < values.length then some value else values[m]? := by
  induction modules generalizing values with
  | nil => simp [setAll]
  | cons k rest ih =>
    have hs : setAll value (k :: rest) values = setAll value rest (values.set k value) := rfl
    rw [hs, ih, List.length_set, List.getElem?_set]
    by_cases hk : k = m
    · subst hk
      by_cases hr : k ∈ rest <;> by_cases hl : k < values.length <;> simp [hr, hl]
    · simp [hk, Ne.symm hk]

theorem getElem?_resize {count m : Nat} (fill : Int32) (values : List Int32) (hm : m < count) :
    (resize count fill values)[m]? = some (values[m]?.getD fill) := by
  unfold resize
  by_cases hv : m < values.length
  · rw [List.getElem?_append_left (by simp; omega), List.getElem?_take_of_lt hm]
    simp [hv]
  · rw [List.getElem?_append_right (by simp; omega)]
    simp only [List.length_take, List.getElem?_eq_none (Nat.le_of_not_lt hv), Option.getD_none]
    rw [List.getElem?_replicate, if_pos (by omega)]

end ModuleValues

namespace Simulator

theorem checkModules_ok_iff {s : Simulator} {modules : List Nat} :
    s.checkModules modules = .ok () ↔ ∀ m ∈ modules, m < s.modules ∧ s.failing ≠ some m := by
  induction modules with
  | nil => simp [checkModules]
  | cons m rest ih =>
    by_cases hm : s.modules ≤ m
    · simp [checkModules, hm, Nat.not_lt.mpr hm]
    · by_cases hf : s.failing = some m
      · simp [checkModules, hm, hf]
      · simp [checkModules, hm, hf, ih, Nat.lt_of_not_le hm]

theorem checkModules_failing {s : Simulator} {modules : List Nat} {f : Nat}
    (failing : s.failing = some f) (listed : f ∈ modules) (below : ∀ m ∈ modules, m < s.modules) :
    s.checkModules modules = .error (.module f "simulated communication failure") := by
  induction modules with
  | nil => cases listed
  | cons m rest ih =>
    obtain ⟨hm, hrest⟩ := List.forall_mem_cons.mp below
    rw [checkModules, if_neg (Nat.not_le.mpr hm)]
    by_cases hf : s.failing = some m
    · obtain rfl : f = m := Option.some.inj (failing.symm.trans hf)
      rw [if_pos hf]
    · rw [if_neg hf]
      rcases List.mem_cons.mp listed with rfl | hmem
      · exact absurd failing hf
      · exact ih hmem hrest

theorem checkRegister_ok_iff {s : Simulator} {r : Register} :
    s.checkRegister r = .ok () ↔ (s.knownOnly = true → s.defaults.get? r ≠ none) := by
  unfold checkRegister
  split
  · simp_all
  · rename_i h
    simpa using h

theorem absorb_ok_iff {s : Simulator} {unit : MeasureUnit} {value raw : Int32} :
    s.absorb unit value = .ok raw ↔
      match unit with
      | .raw => raw = value
      | .millivolt => s.converter.toStep value = .ok raw := by
  cases unit with
  | raw =>
    constructor
    · rintro ⟨⟩
      rfl
    · rintro rfl
      rfl
  | millivolt => exact mapError_ok_iff

/-- The checks of a write that come before the budget, and the raw value that they let pass. -/
def screen (s : Simulator) (c : Channel) (value : Int32) (modules : List Nat) :
    Except DetectorError Int32 := do
  s.checkModules modules
  s.checkRegister c.register
  s.absorb c.unit value

theorem screen_ok_iff {s : Simulator} {c : Channel} {value raw : Int32} {modules : List Nat} :
    s.screen c value modules = .ok raw ↔
      s.checkModules modules = .ok () ∧ s.checkRegister c.register = .ok () ∧
        s.absorb c.unit value = .ok raw := by
  constructor
  · intro h
    obtain ⟨_, hm, h⟩ := attempt_bind_ok.mp h
    obtain ⟨_, hr, ha⟩ := attempt_bind_ok.mp h
    exact ⟨hm, hr, ha⟩
  · rintro ⟨hm, hr, ha⟩
    rw [screen, hm, hr, ha]
    rfl

theorem tryWrite_eq_screen (s : Simulator) (c : Channel) (value : Int32) (modules : List Nat) :
    s.tryWrite c value modules = s.screen c value modules >>= fun raw => do
      let s' ← s.spend
      return (raw, s'.store c.register raw modules) := by
  simp only [tryWrite, screen, bind_assoc]

/-- A write that a check refuses fails with the error of this check and changes nothing. -/
theorem write_of_screen_error {s : Simulator} {c : Channel} {value : Int32} {modules : List Nat}
    {e : DetectorError} (h : s.screen c value modules = .error e) :
    s.write c value modules = ⟨.error e, [], s⟩ := by
  rw [write, tryWrite_eq_screen, h]
  rfl

/-- Behind the checks the budget alone decides. -/
theorem write_of_screen_ok {s : Simulator} {c : Channel} {value raw : Int32} {modules : List Nat}
    (h : s.screen c value modules = .ok raw) :
    (s.write c value modules).result =
      if s.budget = some 0 then .error .timeout else .ok () := by
  rw [write, tryWrite_eq_screen, h]
  rcases hb : s.budget with _ | _ | left <;> simp [spend, hb]

theorem spend_ok {s s' : Simulator} (h : s.spend = .ok s') :
    s.budget ≠ some 0 ∧ s' = { s with budget := s.budget.map (· - 1) } := by
  unfold spend at h
  split at h
  · rename_i hb
    cases h
    exact ⟨by simp [hb], by rw [hb]; cases s; cases hb; rfl⟩
  · cases h
  · rename_i n hb
    cases h
    exact ⟨by simp [hb], by simp [hb]⟩

/-- A write passes all checks, takes one of the writes that are left and stores its raw value, or
it changes nothing. -/
theorem write_cases (s : Simulator) (c : Channel) (value : Int32) (modules : List Nat) :
    (∃ raw, s.checkModules modules = .ok () ∧ s.checkRegister c.register = .ok () ∧
      s.absorb c.unit value = .ok raw ∧ s.budget ≠ some 0 ∧
      s.write c value modules =
        ⟨.ok (), [.simulatedWrite c value raw modules],
          { s with budget := s.budget.map (· - 1) }.store c.register raw modules⟩) ∨
    ∃ e, s.write c value modules = ⟨.error e, [], s⟩ := by
  cases hscreen : s.screen c value modules with
  | error e => exact .inr ⟨e, write_of_screen_error hscreen⟩
  | ok raw =>
    obtain ⟨hm, hr, ha⟩ := screen_ok_iff.mp hscreen
    cases hs : s.spend with
    | error e => exact .inr ⟨e, by simp [write, tryWrite_eq_screen, hscreen, hs]⟩
    | ok s' =>
      obtain ⟨hb, rfl⟩ := spend_ok hs
      exact .inl ⟨raw, hm, hr, ha, hb, by simp [write, tryWrite_eq_screen, hscreen, hs]⟩

theorem mapM_present_raw (s : Simulator) (r : Register) (modules : List Nat) :
    (modules.mapM fun m => s.present .raw (s.rawValue r m)) = .ok (modules.map (s.rawValue r)) :=
  List.mapM_pure

/-- A read in steps passes its checks and gives the raw values, or it fails with the first check. -/
theorem readValues_raw (s : Simulator) (r : Register) (modules : List Nat) :
    s.readValues ⟨r, .raw⟩ modules = do
      s.checkModules modules
      s.checkRegister r
      return modules.map (s.rawValue r) := by
  simp only [readValues, mapM_present_raw]
  rfl

theorem readValues_raw_ok {s : Simulator} {r : Register} {modules : List Nat} {values : List Int32}
    (h : s.readValues ⟨r, .raw⟩ modules = .ok values) :
    s.checkModules modules = .ok () ∧ s.checkRegister r = .ok () ∧
      values = modules.map (s.rawValue r) := by
  rw [readValues_raw, attempt_bind_ok] at h
  obtain ⟨_, hm, h⟩ := h
  rw [attempt_bind_ok] at h
  obtain ⟨_, hr, h⟩ := h
  cases h
  exact ⟨hm, hr, rfl⟩

/-- A reply has a value for each module that was asked for. -/
theorem length_readValues {s : Simulator} {c : Channel} {modules : List Nat} {values : List Int32}
    (h : s.readValues c modules = .ok values) : values.length = modules.length := by
  unfold readValues at h
  rw [attempt_bind_ok] at h
  obtain ⟨_, _, h⟩ := h
  rw [attempt_bind_ok] at h
  obtain ⟨_, _, h⟩ := h
  exact length_of_mapM_ok h

@[simp] theorem length_row (s : Simulator) (r : Register) : (s.row r).length = s.modules := by
  unfold row
  split <;> simp

theorem rawValue_eq (s : Simulator) (r : Register) (m : Nat) :
    s.rawValue r m = (((s.stored.get? r).bind (·[m]?)).getD (s.defaultOf r)) := by
  unfold rawValue defaultOf
  cases (s.stored.get? r).bind (·[m]?) <;> simp

/-- The row of a register shows the same values as a read. -/
theorem getElem?_row {s : Simulator} (r : Register) {m : Nat} (hm : m < s.modules) :
    (s.row r)[m]? = some (s.rawValue r m) := by
  rw [rawValue_eq]
  unfold row
  split
  · rename_i values hv
    rw [ModuleValues.getElem?_resize _ _ hm, hv]
    rfl
  · rename_i hv
    rw [List.getElem?_replicate, hv]
    simp [hm]

/-- A write changes its register on its modules, and no other value. -/
theorem rawValue_store {s : Simulator} (r q : Register) (raw : Int32) (modules : List Nat) {m : Nat}
    (hm : m < s.modules) :
    (s.store r raw modules).rawValue q m =
      if r = q ∧ m ∈ modules then raw else s.rawValue q m := by
  by_cases hq : r = q
  · subst hq
    simp only [rawValue_eq, store, RegisterFile.get?_insert, ↓reduceIte, Option.bind_some,
      ModuleValues.getElem?_setAll, length_row]
    by_cases hmem : m ∈ modules
    · simp [hmem, hm]
    · simp [hmem, getElem?_row r hm, rawValue_eq]
  · simp [rawValue_eq, store, hq, defaultOf]

/-- A module that stays keeps its value, and one that is added shows the default. -/
theorem rawValue_setModuleCount {s : Simulator} (r : Register) {count m : Nat} (hm : m < count) :
    (s.setModuleCount count).rawValue r m = s.rawValue r m := by
  simp only [rawValue_eq, setModuleCount, RegisterFile.get?_map]
  cases hv : s.stored.get? r with
  | none => rfl
  | some values =>
    simp only [Option.map_some, Option.bind_some, ModuleValues.getElem?_resize _ _ hm]
    rfl

end Simulator

end DacBank
