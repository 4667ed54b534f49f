import DacBank.Proofs.Dac.Written

namespace DacBank

open Simulator

/-- The payload in another unit, if each of its values can be converted. -/
def Payload.convert {ε : Type} (f : Int32 → Except ε Int32) : Payload → Except ε Payload
  | .scalar value => .scalar <$> f value
  | .perModule values => .perModule <$> values.mapM f

namespace Simulator

/-- The checks are those of a read in steps, so only the conversion can add an error. -/
theorem readValues_millivolt (s : Simulator) (r : Register) (modules : List Nat) :
    s.readValues ⟨r, .millivolt⟩ modules =
      s.readValues ⟨r, .raw⟩ modules >>= fun steps =>
        (steps.mapM s.converter.toMillivolt).mapError .setting := by
  have hpresent : (modules.mapM fun m => s.present .millivolt (s.rawValue r m)) =
      ((modules.map (s.rawValue r)).mapM s.converter.toMillivolt).mapError .setting := by
    rw [List.mapM_map, ← mapM_mapError]
    rfl
  rw [readValues_raw, readValues]
  cases s.checkModules modules with
  | error e => rfl
  | ok =>
    cases s.checkRegister r with
    | error e => rfl
    | ok => exact hpresent

end Simulator

namespace Dac

theorem getMillivolt_result (d : Dac) (s : Simulator) :
    (d.getMillivolt.run detector s).result =
      (d.get.run detector s).result >>= fun steps =>
        (steps.mapM s.converter.toMillivolt).mapError fun e => .communication (.setting e) := by
  rw [getMillivolt, get, getModules, run_read, run_read, millivoltProperty, stepProperty,
    Selector.resolve]
  by_cases hempty : (List.range s.modules).isEmpty = true
  · simp only [hempty, ↓reduceIte]
    rfl
  · simp only [hempty, Bool.false_eq_true, ↓reduceIte, readValues_millivolt]
    cases s.readValues ⟨d.register, .raw⟩ (List.range s.modules) with
    | error e => rfl
    | ok steps =>
      simp only [attempt_ok_bind]
      cases steps.mapM s.converter.toMillivolt <;> rfl

end Dac

namespace Simulator

variable {s : Simulator} {r : Register}

theorem tryWrite_converted {value raw : Int32} (h : s.converter.toStep value = .ok raw)
    (modules : List Nat) :
    s.tryWrite ⟨r, .millivolt⟩ value modules = s.tryWrite ⟨r, .raw⟩ raw modules := by
  have habsorb : s.absorb .millivolt value = s.absorb .raw raw := absorb_ok_iff.mpr h
  simp only [tryWrite, habsorb]

/-- What the detector reports apart, a write in millivolts is that of the converted value. -/
theorem carry_converted {value raw : Int32} (h : s.converter.toStep value = .ok raw)
    (modules : List Nat) :
    (s.carry ⟨⟨r, .millivolt⟩, value, modules⟩).result =
        (s.carry ⟨⟨r, .raw⟩, raw, modules⟩).result ∧
      (s.carry ⟨⟨r, .millivolt⟩, value, modules⟩).state =
        (s.carry ⟨⟨r, .raw⟩, raw, modules⟩).state := by
  simp only [carry, write, tryWrite_converted h]
  cases s.tryWrite ⟨r, .raw⟩ raw modules <;> exact ⟨rfl, rfl⟩

theorem writeAll_cons_converted {value raw : Int32} (h : s.converter.toStep value = .ok raw)
    (modules : List Nat) {ws vs : List (WriteCall Channel)}
    (rest : ∀ s', SameSetting s s' → s'.writeAll ws = s'.writeAll vs) :
    s.writeAll (⟨⟨r, .millivolt⟩, value, modules⟩ :: ws) =
      s.writeAll (⟨⟨r, .raw⟩, raw, modules⟩ :: vs) := by
  obtain ⟨hresult, hstate⟩ := carry_converted (r := r) h modules
  cases hraw : (s.carry ⟨⟨r, .raw⟩, raw, modules⟩).result with
  | ok =>
    rw [writeAll_cons_ok hraw, writeAll_cons_ok (hresult.trans hraw), hstate]
    exact rest _ (carry_sameSetting s _)
  | error e => rw [writeAll_cons_error hraw, writeAll_cons_error (hresult.trans hraw), hstate]

/-- By induction on the modules: the converter stays the same from write to write. -/
theorem writeAll_convert_each {values steps : List Int32}
    (h : values.map s.converter.toStep = steps.map .ok) (modules : List Nat) :
    s.writeAll (Property.wanted ⟨r, .millivolt⟩ modules (.perModule values)) =
      s.writeAll (Property.wanted ⟨r, .raw⟩ modules (.perModule steps)) := by
  unfold Property.wanted
  induction modules generalizing s values steps with
  | nil => rfl
  | cons m modules ih =>
    cases values with
    | nil =>
      obtain rfl : steps = [] := List.map_eq_nil_iff.mp h.symm
      rfl
    | cons value values =>
      obtain _ | ⟨step, steps⟩ := steps
      · cases h
      obtain ⟨hvalue, hrest⟩ := List.cons.inj h
      refine writeAll_cons_converted hvalue [m] fun s' hs => ih ?_
      rw [hs.make.converter]
      exact hrest

theorem writeAll_convert {payload converted : Payload}
    (h : payload.convert s.converter.toStep = .ok converted) (modules : List Nat) :
    s.writeAll (Property.wanted ⟨r, .millivolt⟩ modules payload) =
      s.writeAll (Property.wanted ⟨r, .raw⟩ modules converted) := by
  cases payload with
  | scalar value =>
    obtain ⟨step, hstep, rfl⟩ := attempt_map_ok.mp h
    by_cases hnone : modules = []
    · subst hnone
      rfl
    · rw [Property.wanted_scalar _ _ hnone, Property.wanted_scalar _ _ hnone]
      exact writeAll_cons_converted hstep modules fun _ _ => rfl
  | perModule values =>
    obtain ⟨steps, hsteps, rfl⟩ := attempt_map_ok.mp h
    exact writeAll_convert_each (mapM_ok_iff_map.mp hsteps) modules

end Simulator

namespace Property

/-- A write to all modules of the detector, if there is a value for each of them. -/
theorem write_all_carries {s : Simulator} (p : Property Channel) {payload : Payload}
    (fit : ∀ values, payload = .perModule values → values.length = s.modules) :
    s.Carries (p.write .all payload) (wanted p.channel (List.range s.modules) payload) :=
  p.write_carries rfl fun values h => (fit values h).trans List.length_range.symm

theorem write_all_misfit {s : Simulator} (p : Property Channel) {values : List Int32}
    (misfit : values.length ≠ s.modules) :
    (p.write .all (.perModule values)).ending detector s =
      (.error (.shapeMismatch (.values p.name) s.modules values.length), s) := by
  have hselect : (select .all : Program Channel _).ending detector s =
      (.ok (List.range s.modules), s) := by
    rw [Program.ending, run_select]
    rfl
  refine (Program.ending_bind_ok hselect).trans ?_
  simp only [List.length_range, if_pos misfit]
  rfl

end Property

namespace Dac

variable {d : Dac} {s : Simulator}

/-- A write in millivolts comes to what the write of the converted payload comes to. -/
theorem setMillivolt_ending {payload converted : Payload}
    (h : payload.convert s.converter.toStep = .ok converted) :
    (d.setMillivolt payload).ending detector s = (d.set converted).ending detector s := by
  rw [set, setModules_ending]
  have hcarried (fit : ∀ values, payload = .perModule values → values.length = s.modules)
      (fit' : ∀ steps, converted = .perModule steps → steps.length = s.modules) :
      (d.setMillivolt payload).ending detector s =
        (d.stepProperty.write .all converted).ending detector s := by
    have hmillivolt := d.millivoltProperty.write_all_carries fit
    have hstep := d.stepProperty.write_all_carries fit'
    rw [Carries, millivoltProperty, writeAll_convert h] at hmillivolt
    exact hmillivolt.trans hstep.symm
  cases payload with
  | scalar value =>
    obtain ⟨step, _, rfl⟩ := attempt_map_ok.mp h
    refine hcarried ?_ ?_ <;> rintro _ ⟨⟩
  | perModule values =>
    obtain ⟨steps, hsteps, rfl⟩ := attempt_map_ok.mp h
    have hlength : steps.length = values.length := length_of_mapM_ok hsteps
    by_cases fit : values.length = s.modules
    · refine hcarried ?_ ?_
      · rintro _ ⟨⟩
        exact fit
      · rintro _ ⟨⟩
        exact hlength.trans fit
    · rw [setMillivolt, d.millivoltProperty.write_all_misfit fit,
        d.stepProperty.write_all_misfit (hlength ▸ fit), hlength]
      rfl

end Dac

namespace Property

/-- In front of the write of a value are those of the values before it. -/
theorem wanted_split {χ : Type} (c : χ) (before : List Int32) (x : Int32) (after : List Int32) :
    ∃ others,
      wanted c (List.range (before ++ x :: after).length) (.perModule (before ++ x :: after)) =
        wanted c (List.range before.length) (.perModule before) ++
          ⟨c, x, [before.length]⟩ :: others := by
  have hrange : List.range (before ++ x :: after).length = List.range before.length ++
      before.length :: (List.range' (before.length + 1) after.length) := by
    rw [List.length_append, List.length_cons, List.range_eq_range', List.range_eq_range',
      ← List.range'_append_1, Nat.zero_add, List.range'_succ]
  rw [hrange]
  simp only [wanted]
  rw [List.zipWith_append List.length_range, List.zipWith_cons_cons]
  exact ⟨_, rfl⟩

/-- Written to the first modules, one each, values replace what was there. -/
theorem foldl_lay_first (r : Register) {steps values : List Int32}
    (le : steps.length ≤ values.length) :
    (wanted ⟨r, .raw⟩ (List.range steps.length) (.perModule steps)).foldl (lay r) values =
      steps ++ values.drop steps.length := by
  apply List.ext_getElem?
  intro m
  rw [getElem?_foldl_lay]
  by_cases hm : m < steps.length
  · have hvalue : values[m]? = some values[m] := List.getElem?_eq_getElem (Nat.lt_of_lt_of_le hm le)
    rw [hvalue, Option.map_some, foldl_leave_each List.nodup_range,
      lookup_zip List.nodup_range (List.getElem?_range hm), List.getElem?_append_left hm,
      List.getElem?_eq_getElem hm, Option.getD_some]
  · have hnot : m ∉ List.range steps.length := fun h => hm (List.mem_range.mp h)
    have hrest : m = steps.length + (m - steps.length) := by omega
    rw [List.getElem?_append_right (by omega), List.getElem?_drop, ← hrest]
    cases values[m]? with
    | none => rfl
    | some old =>
      rw [Option.map_some, foldl_leave_each List.nodup_range, lookup_zip_of_not_mem hnot,
        Option.getD_none]

theorem foldl_lay_ne {r q : Register} (h : r ≠ q) (modules : List Nat) (payload : Payload)
    (values : List Int32) : (wanted ⟨r, .raw⟩ modules payload).foldl (lay q) values = values := by
  apply List.ext_getElem?
  intro m
  rw [getElem?_foldl_lay]
  cases values[m]? with
  | none => rfl
  | some old => rw [Option.map_some, foldl_leave_wanted_ne h]

end Property

namespace Simulator

/-- Nothing but the value itself can stop a write to this register on modules that there are. -/
structure Free (s : Simulator) (r : Register) : Prop where
  known : s.checkRegister r = .ok ()
  sound : s.failing = none
  unlimited : s.budget = none

section
variable {s : Simulator} {r : Register}

theorem Free.checkModules (h : s.Free r) {modules : List Nat}
    (there : ∀ m ∈ modules, m < s.modules) : s.checkModules modules = .ok () := by
  rw [checkModules_ok_iff]
  intro m hm
  refine ⟨there m hm, ?_⟩
  rw [h.sound]
  rintro ⟨⟩

theorem Free.writeAll_steps (h : s.Free r) {modules : List Nat}
    (there : ∀ m ∈ modules, m < s.modules) (payload : Payload) :
    (s.writeAll (Property.wanted ⟨r, .raw⟩ modules payload)).1 = .ok () := by
  refine writeAll_ok_iff.mpr ⟨fun w hw => ?_, ?_⟩
  · have hchannel := Property.wanted_channel w hw
    refine ⟨h.checkModules fun m hm => there m (Property.mem_modules_wanted hw hm), ?_, w.value, ?_⟩
    · rw [hchannel]
      exact h.known
    · rw [hchannel]
      rfl
  · rw [Affords, h.unlimited]
    rintro _ ⟨⟩

/-- The values in front of one that cannot be converted are written, and nothing else is. -/
theorem Free.writeAll_stops (h : s.Free r) {before after steps : List Int32} {x : Int32}
    {fault : SettingError} (fit : (before ++ x :: after).length = s.modules)
    (converted : before.map s.converter.toStep = steps.map .ok)
    (rejected : s.converter.toStep x = .error fault) :
    let first := Property.wanted (⟨r, .raw⟩ : Channel) (List.range steps.length) (.perModule steps)
    (s.writeAll first).1 = .ok () ∧
      s.writeAll (Property.wanted ⟨r, .millivolt⟩ (List.range s.modules)
          (.perModule (before ++ x :: after))) =
        (.error (.setting fault), (s.writeAll first).2) := by
  intro first
  have hlength : before.length = steps.length := by simpa using congrArg List.length converted
  have hcount : before.length < s.modules := by
    rw [← fit, List.length_append, List.length_cons]
    omega
  have hmade : (s.writeAll first).1 = .ok () := by
    refine h.writeAll_steps (fun m hm => ?_) _
    rw [List.mem_range, ← hlength] at hm
    exact Nat.lt_trans hm hcount
  have hfirst : s.writeAll (Property.wanted ⟨r, .millivolt⟩ (List.range before.length)
      (.perModule before)) = s.writeAll first := by
    rw [writeAll_convert_each converted, hlength]
  have hrefused (made : Nat) :
      s.Refuses made ⟨⟨r, .millivolt⟩, x, [before.length]⟩ (.setting fault) := by
    have hmodule := h.checkModules (List.forall_mem_singleton.mpr hcount)
    refine .check ?_
    rw [screen, hmodule, h.known, absorb, rejected]
    rfl
  -- the values behind `x` are never reached
  obtain ⟨others, hsplit⟩ := Property.wanted_split (⟨r, .millivolt⟩ : Channel) before x after
  rw [← fit, hsplit, writeAll_refused (hfirst ▸ hmade) (hrefused _), hfirst]
  exact ⟨hmade, rfl⟩

end

end Simulator

namespace Dac

variable {d : Dac} {s : Simulator}

/-- A write in millivolts stops at the first value that cannot be converted. The modules in front of
it hold the values that were converted, and all else is as it was. -/
theorem setMillivolt_stops {before after steps : List Int32} {x : Int32} {fault : SettingError}
    (fit : (before ++ x :: after).length = s.modules)
    (converted : before.map s.converter.toStep = steps.map .ok)
    (rejected : s.converter.toStep x = .error fault) (free : s.Free d.register) :
    let o := (d.setMillivolt (.perModule (before ++ x :: after))).run detector s
    o.result = .error (.communication (.setting fault)) ∧
      o.state.values d.register = steps ++ (s.values d.register).drop steps.length ∧
      (∀ r, r ≠ d.register → o.state.values r = s.values r) ∧
      o.state = { s with stored := o.state.stored, writes := s.writes + steps.length } := by
  intro o
  obtain ⟨hmade, hstops⟩ := free.writeAll_stops fit converted rejected
  have hcarries : s.Carries (d.setMillivolt (.perModule (before ++ x :: after))) _ :=
    d.millivoltProperty.write_all_carries fun values h => by cases h; exact fit
  rw [millivoltProperty, Carries, hstops] at hcarries
  let first := Property.wanted (⟨d.register, .raw⟩ : Channel) (List.range steps.length)
    (.perModule steps)
  have hstate : o.state = (s.writeAll first).2 := congrArg Prod.snd hcarries
  have hvalues (r : Register) : o.state.values r = first.foldl (lay r) (s.values r) := by
    rw [hstate, values_writeAll Property.wanted_raw hmade]
  refine ⟨congrArg Prod.fst hcarries, ?_, fun r hr => ?_, ?_⟩
  · have hle : steps.length ≤ (s.values d.register).length := by
      have hlength := congrArg List.length converted
      rw [List.length_map, List.length_map] at hlength
      rw [values, List.length_map, List.length_range, ← fit, List.length_append]
      omega
    rw [hvalues, Property.foldl_lay_first d.register hle]
  · rw [hvalues, Property.foldl_lay_ne (Ne.symm hr)]
  · have hcounted : first.length = steps.length := by simp [first, Property.wanted]
    have hbudget : s.budget.map (· - steps.length) = s.budget := by rw [free.unlimited]; rfl
    have hleft : (s.writeAll first).2 = _ := state_writeAll hmade
    rwa [← hstate, hcounted, hbudget] at hleft

/-- Access in millivolts is access in steps through the converter. A read succeeds if the read in
steps does and each value can be converted. Otherwise it fails as the read in steps does, or for the
first value that cannot be converted. A write of values that can be converted comes to what the write
of the converted values comes to. Where nothing else stops a write, the first value that cannot be
converted does: the modules in front of it hold the values that were converted. -/
theorem millivolts_agree_with_steps (d : Dac) (s : Simulator) :
    let steps := (d.get.run detector s).result
    let millivolts := (d.getMillivolt.run detector s).result
    (∀ values, millivolts = .ok values ↔
        ∃ read, steps = .ok read ∧ read.map s.converter.toMillivolt = values.map .ok) ∧
      (∀ e, millivolts = .error e ↔ steps = .error e ∨
        ∃ before x after fault, steps = .ok (before ++ x :: after) ∧
          (∀ y ∈ before, ∃ v, s.converter.toMillivolt y = .ok v) ∧
          s.converter.toMillivolt x = .error fault ∧ e = .communication (.setting fault)) ∧
      (∀ payload converted, payload.convert s.converter.toStep = .ok converted →
        let o := (d.setMillivolt payload).run detector s
        let o' := (d.set converted).run detector s
        o.result = o'.result ∧ o.state = o'.state) ∧
      ∀ before x after converted fault, (before ++ x :: after).length = s.modules →
        before.map s.converter.toStep = converted.map .ok → s.converter.toStep x = .error fault →
        s.checkRegister d.register = .ok () → s.failing = none → s.budget = none →
        let o := (d.setMillivolt (.perModule (before ++ x :: after))).run detector s
        o.result = .error (.communication (.setting fault)) ∧
          o.state.values d.register =
            converted ++ (s.values d.register).drop converted.length ∧
          (∀ r, r ≠ d.register → o.state.values r = s.values r) ∧
          o.state =
            { s with stored := o.state.stored, writes := s.writes + converted.length } := by
  intro steps millivolts
  have hresult : millivolts = steps >>= fun read =>
      (read.mapM s.converter.toMillivolt).mapError fun e => .communication (.setting e) :=
    d.getMillivolt_result s
  refine ⟨fun values => ?_, fun e => ?_, fun payload converted h => ?_, ?_⟩
  · rw [hresult, attempt_bind_ok]
    simp only [mapError_ok_iff, mapM_ok_iff_map]
  · rw [hresult, attempt_bind_error]
    simp only [mapError_error_iff, mapM_error_iff]
    constructor
    · rintro (h | ⟨_, h, fault, ⟨before, x, after, rfl, hbefore, hx⟩, he⟩)
      · exact .inl h
      · exact .inr ⟨before, x, after, fault, h, hbefore, hx, he⟩
    · rintro (h | ⟨before, x, after, fault, h, hbefore, hx, he⟩)
      · exact .inl h
      · exact .inr ⟨_, h, fault, ⟨before, x, after, rfl, hbefore, hx⟩, he⟩
  · exact Prod.mk.inj (setMillivolt_ending h)
  · intro before x after converted fault fit hbefore rejected known sound unlimited
    exact setMillivolt_stops fit hbefore rejected ⟨known, sound, unlimited⟩

/-- The last step is beyond the converter. Half of the range is written to all modules at once and
read back. Then the second of three values is beyond the range, and the third is never looked at. -/
theorem millivolts_agree_with_steps_mythen3 :
    let d : Dac := ⟨"vth1", ⟨0⟩, 0, 4000, 1200⟩
    let s := ((d.set (.perModule [7, 4095, 5000])).run detector (ofModules 3)).state
    let half := (d.setMillivolt (.scalar 1024)).run detector s
    let beyond := (d.setMillivolt (.perModule [2048, 9000, -1])).run detector s
    (d.getMillivolt.run detector s).result =
        .error (.communication (.setting (.valueOutOfRange 5000 0 4095))) ∧
      half.result = .ok () ∧ half.state = ((d.set (.scalar 2048)).run detector s).state ∧
      (d.getMillivolt.run detector half.state).result = .ok [1024, 1024, 1024] ∧
      beyond.result = .error (.communication (.setting (.valueOutOfRange 9000 0 2048))) ∧
      beyond.state.values ⟨0⟩ = [4095, 4095, 5000] ∧ beyond.state.writes = 4 := by
  intro d s half beyond
  have hconverter : s.converter = .mythen3 := rfl
  have hhalf : half.state.converter = .mythen3 := by decide +kernel
  have read : (d.get.run detector s).result = .ok [7, 4095, 5000] := by decide +kernel
  have readHalf : (d.get.run detector half.state).result = .ok [2048, 2048, 2048] := by
    decide +kernel
  obtain ⟨_, hfault, hsame, hstops⟩ := millivolts_agree_with_steps d s
  obtain ⟨hread, _⟩ := millivolts_agree_with_steps d half.state
  rw [hconverter] at hfault hsame hstops
  rw [hhalf] at hread
  have low : Converter.mythen3.toMillivolt 7 = .ok 4 := by decide +kernel
  have high : Converter.mythen3.toMillivolt 4095 = .ok 2048 := by decide +kernel
  have first : ∀ y ∈ [7, 4095], ∃ v, Converter.mythen3.toMillivolt y = .ok v := by
    rw [List.forall_mem_cons, List.forall_mem_singleton]
    exact ⟨⟨4, low⟩, 2048, high⟩
  have refused := (hfault _).mpr (.inr ⟨[7, 4095], 5000, [], .valueOutOfRange 5000 0 4095, read,
    first, by decide +kernel, rfl⟩)
  have converted : (Payload.scalar 1024).convert Converter.mythen3.toStep = .ok (.scalar 2048) := by
    decide +kernel
  obtain ⟨hresult, hleft⟩ := hsame _ _ converted
  have made : ((d.set (.scalar 2048)).run detector s).result = .ok () := by decide +kernel
  have readBack := (hread [1024, 1024, 1024]).mpr ⟨_, readHalf, by decide +kernel⟩
  obtain ⟨stopped, hvalues, _, hstate⟩ := hstops [2048] 9000 [-1] [4095]
    (.valueOutOfRange 9000 0 2048) (by decide +kernel) (by decide +kernel) (by decide +kernel)
    (by decide +kernel) (by decide +kernel) (by decide +kernel)
  have kept : (s.values d.register).drop 1 = [4095, 5000] := by decide +kernel
  rw [List.length_singleton, kept] at hvalues
  change beyond.result = _ at stopped
  change beyond.state.values ⟨0⟩ = [4095, 4095, 5000] at hvalues
  change beyond.state = _ at hstate
  have hwrites : beyond.state.writes = 4 := by
    rw [hstate]
    rfl
  with_reducible exact ⟨refused, hresult.trans made, hleft, readBack, stopped, hvalues, hwrites⟩

end Dac

end DacBank
