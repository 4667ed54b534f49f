import DacBank.Proofs.Simulator.Reach

namespace DacBank.Simulator

/-- Whether the detector was set up for some registers and this is none of them. -/
def Setup.lacks (u : Setup) (r : Register) : Bool :=
  u.known.any fun dacs => dacs.all (·.register ≠ r)

def moduleObjection? (s : Simulator) (m : Nat) : Option DetectorError :=
  if s.modules ≤ m then some (.module m s!"no such module (detector has {s.modules})")
  else if s.failing = some m then some (.module m "simulated communication failure")
  else none

def registerObjection? (u : Setup) (r : Register) : Option DetectorError :=
  if u.lacks r then some (.setting (.unknownRegister r.raw)) else none

def valueObjection? (converter : Converter) (unit : MeasureUnit) (value : Int32) :
    Option DetectorError :=
  match unit, converter.toStep value with
  | .millivolt, .error e => some (.setting e)
  | _, _ => none

def budgetObjection? (budget : Option Nat) : Option DetectorError :=
  if budget = some 0 then some .timeout else none

/-- What speaks against a write to a detector of this set-up in this state: first the modules in the
order of the list, then the register, the value and the budget. -/
def objections (u : Setup) (s : Simulator) (c : Channel) (value : Int32) (modules : List Nat) :
    List DetectorError :=
  modules.filterMap s.moduleObjection? ++ (registerObjection? u c.register).toList ++
    (valueObjection? u.converter c.unit value).toList ++ (budgetObjection? s.budget).toList

/-- The first objection decides. -/
def verdict : List DetectorError → Except DetectorError Unit
  | [] => .ok ()
  | e :: _ => .error e

theorem verdict_append (first rest : List DetectorError) :
    verdict (first ++ rest) = verdict first >>= fun _ => verdict rest := by
  cases first <;> rfl

theorem verdict_error_iff {l : List DetectorError} {e : DetectorError} :
    verdict l = .error e ↔ l.head? = some e := by
  cases l <;> simp [verdict]

section
variable {u : Setup} {s : Simulator}

theorem moduleObjection?_isSome_iff {m : Nat} :
    (s.moduleObjection? m).isSome ↔ s.modules ≤ m ∨ s.failing = some m := by
  unfold moduleObjection?
  by_cases hm : s.modules ≤ m <;> by_cases hf : s.failing = some m <;> simp [hm, hf]

theorem lacks_iff {r : Register} :
    u.lacks r = true ↔ ∃ dacs, u.known = some dacs ∧ ∀ d ∈ dacs, d.register ≠ r := by
  unfold Setup.lacks
  cases u.known <;> simp

theorem valueObjection?_isSome_iff {converter : Converter} {unit : MeasureUnit} {value : Int32} :
    (valueObjection? converter unit value).isSome ↔
      unit = .millivolt ∧ ∃ e, converter.toStep value = .error e := by
  unfold valueObjection?
  cases unit <;> cases converter.toStep value <;> simp

theorem checkModules_eq_verdict (s : Simulator) (modules : List Nat) :
    s.checkModules modules = verdict (modules.filterMap s.moduleObjection?) := by
  induction modules with
  | nil => rfl
  | cons m rest ih =>
    rw [checkModules, List.filterMap_cons, moduleObjection?, ih]
    split
    · rfl
    · split <;> rfl

theorem checkRegister_eq_verdict (made : SameMake u.start s) (r : Register) :
    s.checkRegister r = verdict (registerObjection? u r).toList := by
  have hlacks : (u.start.knownOnly ∧ u.start.defaults.get? r = none) ↔ u.lacks r = true := by
    obtain ⟨modules, known, converter⟩ := u
    cases known with
    | none => simp [Setup.start, Setup.lacks, ofModules, withConverter]
    | some dacs =>
      change (true = true ∧ (defaultsOf dacs).get? r = none) ↔ _
      simp [get?_defaultsOf, Setup.lacks]
  rw [checkRegister_congr made, checkRegister, registerObjection?]
  by_cases h : u.lacks r = true
  · rw [if_pos (hlacks.mpr h), if_pos h]
    rfl
  · rw [if_neg fun hc => h (hlacks.mp hc), if_neg h]
    rfl

theorem converter_of_made (made : SameMake u.start s) : s.converter = u.converter := by
  rw [made.converter]
  obtain ⟨modules, known, converter⟩ := u
  cases known <;> rfl

theorem absorb_eq_verdict (made : SameMake u.start s) (unit : MeasureUnit) (value : Int32) :
    (s.absorb unit value).map (fun _ => ()) =
      verdict (valueObjection? u.converter unit value).toList := by
  unfold Simulator.absorb valueObjection?
  rw [converter_of_made made]
  cases unit with
  | raw => rfl
  | millivolt => cases u.converter.toStep value <;> rfl

theorem spend_eq_verdict (s : Simulator) :
    s.spend.map (fun _ => ()) = verdict (budgetObjection? s.budget).toList := by
  unfold spend budgetObjection?
  rcases s.budget with _ | _ | left <;> rfl

/-- The checks are made in the order of the objections. -/
theorem result_write (made : SameMake u.start s) (c : Channel) (value : Int32)
    (modules : List Nat) :
    (s.write c value modules).result = verdict (objections u s c value modules) := by
  have hresult : (s.write c value modules).result =
      (s.tryWrite c value modules).map fun _ => () := by
    rw [write]
    cases s.tryWrite c value modules <;> rfl
  rw [hresult, objections, verdict_append, verdict_append, verdict_append,
    ← checkModules_eq_verdict, ← checkRegister_eq_verdict made, ← absorb_eq_verdict made,
    ← spend_eq_verdict, tryWrite]
  cases s.checkModules modules with
  | error e => rfl
  | ok =>
    cases s.checkRegister c.register with
    | error e => rfl
    | ok =>
      cases s.absorb c.unit value with
      | error e => rfl
      | ok raw => cases s.spend <;> rfl

/-- Whatever one of the checks refuses is an objection. -/
theorem objections_ne_nil_iff {c : Channel} {value : Int32} {modules : List Nat} :
    objections u s c value modules ≠ [] ↔
      (∃ m ∈ modules, s.modules ≤ m ∨ s.failing = some m) ∨
        (∃ dacs, u.known = some dacs ∧ ∀ d ∈ dacs, d.register ≠ c.register) ∨
        (c.unit = .millivolt ∧ ∃ e, u.converter.toStep value = .error e) ∨
        s.budget = some 0 := by
  have hmodules : modules.filterMap s.moduleObjection? ≠ [] ↔
      ∃ m ∈ modules, s.modules ≤ m ∨ s.failing = some m := by
    rw [ne_eq, List.filterMap_eq_nil_iff]
    push Not
    simp only [← Option.isSome_iff_ne_none, moduleObjection?_isSome_iff]
  have hregister : (registerObjection? u c.register).toList ≠ [] ↔
      ∃ dacs, u.known = some dacs ∧ ∀ d ∈ dacs, d.register ≠ c.register := by
    rw [← lacks_iff, registerObjection?]
    split <;> simp_all
  have hvalue : (valueObjection? u.converter c.unit value).toList ≠ [] ↔
      c.unit = .millivolt ∧ ∃ e, u.converter.toStep value = .error e := by
    rw [← valueObjection?_isSome_iff, ne_eq, Option.toList_eq_nil_iff, Option.isSome_iff_ne_none]
  have hbudget : (budgetObjection? s.budget).toList ≠ [] ↔ s.budget = some 0 := by
    rw [budgetObjection?]
    split <;> simp_all
  rw [objections, ← hmodules, ← hregister, ← hvalue, ← hbudget]
  simp only [ne_eq, List.append_eq_nil_iff, not_and_or, or_assoc]

/-- A write that is made gives its modules the raw value, and changes no other. -/
theorem values_write {c : Channel} {value : Int32} {modules : List Nat}
    (h : (s.write c value modules).result = .ok ()) :
    ∃ raw, s.absorb c.unit value = .ok raw ∧ ∀ (q : Register) (m : Nat),
      ((s.write c value modules).state.values q)[m]? =
        if c.register = q ∧ m ∈ modules then some raw else (s.values q)[m]? := by
  rcases write_cases s c value modules with ⟨raw, hmodules, _, ha, _, hw⟩ | ⟨e, hw⟩
  · refine ⟨raw, ha, fun q m => ?_⟩
    have hstate : (s.write c value modules).state =
      { s with budget := s.budget.map (· - 1) }.store c.register raw modules := by rw [hw]
    rw [hstate, getElem?_values, getElem?_values]
    change (if m < s.modules then _ else _) = _
    by_cases hm : m < s.modules
    · have hstore := rawValue_store (s := { s with budget := s.budget.map (· - 1) }) c.register q
        raw modules hm
      rw [if_pos hm, if_pos hm, hstore]
      split <;> rfl
    · have hnot : m ∉ modules := fun hmem => hm (checkModules_ok_iff.mp hmodules m hmem).1
      rw [if_neg hm, if_neg hm, if_neg fun h => hnot h.2]
  · rw [hw] at h
    cases h

end

/-- A write fails for a module that the detector lacks or that fails, for a register that it was not
set up for, for a value in millivolts that cannot be converted, or for want of a write that is left,
and for nothing else. If several of these hold, the error is that of the first objection. A failed
write changes nothing. A write that succeeds gives the listed modules of its register the raw value
and changes no other value; it is counted once and takes one from the budget. -/
theorem write_is_atomic (u : Setup) (actions : List Action) (c : Channel) (value : Int32)
    (modules : List Nat) :
    let s := u.start.run actions
    let o := s.write c value modules
    ((∃ e, o.result = .error e) ↔
        (∃ m ∈ modules, s.modules ≤ m ∨ s.failing = some m) ∨
        (∃ dacs, u.known = some dacs ∧ ∀ d ∈ dacs, d.register ≠ c.register) ∨
        (c.unit = .millivolt ∧ ∃ e, u.converter.toStep value = .error e) ∨
        s.budget = some 0) ∧
      (∀ e, o.result = .error e →
        (objections u s c value modules).head? = some e ∧ o.state = s) ∧
      (o.result = .ok () → ∃ raw,
        (match c.unit with
          | .raw => raw = value
          | .millivolt => u.converter.toStep value = .ok raw) ∧
        (∀ (q : Register) (m : Nat), (o.state.values q)[m]? =
          if c.register = q ∧ m ∈ modules then some raw else (s.values q)[m]?) ∧
        o.state =
          { s with
            stored := o.state.stored
            budget := s.budget.map (· - 1)
            writes := s.writes + 1 }) := by
  intro s o
  have made : SameMake u.start s := run_sameMake u.start actions
  have hresult : o.result = verdict (objections u s c value modules) :=
    result_write made c value modules
  refine ⟨?_, ?_, ?_⟩
  · rw [← objections_ne_nil_iff, hresult, ← List.isSome_head?, Option.isSome_iff_exists]
    simp only [verdict_error_iff]
  · intro e he
    have hstate : o = ⟨.error e, [], s⟩ := carry_error (w := ⟨c, value, modules⟩) he
    exact ⟨verdict_error_iff.mp (hresult.symm.trans he), congrArg Reply.state hstate⟩
  · intro ok
    obtain ⟨raw, habsorb, hvalues⟩ := values_write ok
    rw [absorb_ok_iff, converter_of_made made] at habsorb
    exact ⟨raw, habsorb, hvalues, state_carry (w := ⟨c, value, modules⟩) ok⟩

/-- A write with four faults fails for the module that comes first in its list. Once the faults are
mended, a write that names a module twice takes the one write that is left. -/
theorem write_is_atomic_mended :
    let u : Setup := ⟨2, some [⟨"vth1", ⟨6⟩, 0, 4095, 100⟩], .mythen3⟩
    let faults : List Action := [.change (.failing (some 1)), .change (.budget (some 0))]
    let mended : List Action := faults ++ [.change (.failing none), .change (.budget (some 1))]
    let s := u.start.run faults
    let o := s.write ⟨⟨7⟩, .millivolt⟩ 9000 [0, 1, 5]
    let o' := (u.start.run mended).write ⟨⟨6⟩, .millivolt⟩ 2048 [1, 1]
    o.result = .error (.module 1 "simulated communication failure") ∧ o.state = s ∧
      o'.result = .ok () ∧ (o'.state.values ⟨6⟩)[1]? = some 4095 ∧
      (o'.state.values ⟨6⟩)[0]? = some 100 ∧ o'.state.budget = some 0 ∧ o'.state.writes = 1 := by
  intro u faults mended s o o'
  have refused : o.result = .error (.module 1 "simulated communication failure") := by
    decide +kernel
  have made : o'.result = .ok () := by decide +kernel
  obtain ⟨_, hrefused, _⟩ := write_is_atomic u faults ⟨⟨7⟩, .millivolt⟩ 9000 [0, 1, 5]
  obtain ⟨_, _, hmade⟩ := write_is_atomic u mended ⟨⟨6⟩, .millivolt⟩ 2048 [1, 1]
  obtain ⟨raw, hraw, hvalues, hstate⟩ := hmade made
  have hstep : u.converter.toStep 2048 = .ok 4095 := by decide +kernel
  obtain rfl : 4095 = raw := Except.ok.inj (hstep.symm.trans hraw)
  change o'.state = _ at hstate
  refine ⟨refused, (hrefused _ refused).2, made, hvalues ⟨6⟩ 1, hvalues ⟨6⟩ 0, ?_, ?_⟩
  · rw [hstate]
    rfl
  · rw [hstate]
    rfl

end DacBank.Simulator
