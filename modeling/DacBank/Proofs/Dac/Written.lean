import DacBank.Proofs.Dac.Recorded
import DacBank.Proofs.Dac.Simulated
import DacBank.Proofs.Property.Convention
import DacBank.Proofs.Simulator.Reach

namespace DacBank

open Simulator

/-- The values of a write to so many modules, one for each of them. -/
def Payload.spread (modules : Nat) : Payload → List Int32
  | .scalar value => List.replicate modules value
  | .perModule values => values

/-- Whether a selector names a module of a detector with `count` of them. -/
def Selector.Names (selector : Selector) (count m : Nat) : Prop :=
  match selector with
  | .all => m < count
  | .modules list => m ∈ list

theorem Selector.mem_resolve {selector : Selector} {count m : Nat} {modules : List Nat}
    (h : selector.resolve count = .ok modules) : m ∈ modules ↔ selector.Names count m := by
  cases selector with
  | all =>
    cases h
    exact List.mem_range
  | modules list =>
    rw [resolve] at h
    split at h
    · cases h
    · cases h
      exact mem_ascending

section
variable {modules : List Nat} {values : List Int32} {m k : Nat}

theorem lookup_zip_of_not_mem (h : m ∉ modules) : (modules.zip values).lookup m = none := by
  rw [List.lookup_eq_none_iff]
  intro x hx
  have hne : m ≠ x.1 := fun hm => h (hm ▸ (List.of_mem_zip hx).1)
  simpa using hne

theorem lookup_zip (distinct : modules.Nodup) (hm : modules[k]? = some m) :
    (modules.zip values).lookup m = values[k]? := by
  induction modules generalizing values k with
  | nil => cases hm
  | cons a modules ih =>
    obtain ⟨ha, hrest⟩ := List.nodup_cons.mp distinct
    cases values with
    | nil => rfl
    | cons v values =>
      cases k with
      | zero =>
        obtain rfl : a = m := Option.some.inj hm
        rw [List.zip_cons_cons, List.lookup_cons_self]
        rfl
      | succ k =>
        have hne : m ≠ a := fun h => ha (h ▸ List.mem_of_getElem? hm)
        rw [List.zip_cons_cons, List.lookup_cons, beq_false_of_ne hne]
        exact ih hrest hm

end

namespace Property

variable {r q : Register} {modules : List Nat} {payload : Payload} {m : Nat} {old : Int32}

/-- By induction on the modules: a module is written once, for the others do not touch it. -/
theorem foldl_leave_each (distinct : modules.Nodup) (values : List Int32) :
    (wanted ⟨r, .raw⟩ modules (.perModule values)).foldl (leave r m) old =
      ((modules.zip values).lookup m).getD old := by
  unfold wanted
  induction modules generalizing values old with
  | nil => rfl
  | cons a modules ih =>
    obtain ⟨ha, hrest⟩ := List.nodup_cons.mp distinct
    cases values with
    | nil => rfl
    | cons v values =>
      simp only [List.zipWith_cons_cons, List.foldl_cons, List.zip_cons_cons, List.lookup_cons]
      rw [ih hrest]
      by_cases hm : m = a
      · subst hm
        rw [lookup_zip_of_not_mem ha]
        simp [leave]
      · rw [beq_false_of_ne hm]
        simp [leave, hm]

/-- A selected module is left with its value of the payload, and each other one with its own. -/
theorem foldl_leave_wanted (distinct : modules.Nodup) :
    (wanted ⟨r, .raw⟩ modules payload).foldl (leave r m) old =
      ((modules.zip (payload.spread modules.length)).lookup m).getD old := by
  cases payload with
  | perModule values => exact foldl_leave_each distinct values
  | scalar value =>
    by_cases hm : m ∈ modules
    · obtain ⟨k, hk⟩ := List.mem_iff_getElem?.mp hm
      obtain ⟨hlt, _⟩ := List.getElem?_eq_some_iff.mp hk
      rw [lookup_zip distinct hk, Payload.spread, List.getElem?_replicate, if_pos hlt,
        wanted_scalar _ _ (List.ne_nil_of_mem hm)]
      simp [leave, hm]
    · rw [lookup_zip_of_not_mem hm, wanted]
      split
      · rfl
      · simp [leave, hm]

theorem foldl_leave_wanted_ne (h : r ≠ q) :
    (wanted ⟨r, .raw⟩ modules payload).foldl (leave q m) old = old := by
  refine foldl_leave ?_ (.inl rfl)
  intro w hw hq
  rw [wanted_channel w hw] at hq
  exact absurd hq h

theorem wanted_raw : ∀ w ∈ wanted (⟨r, .raw⟩ : Channel) modules payload, w.channel.unit = .raw :=
  fun w hw => congrArg Channel.unit (wanted_channel w hw)

theorem mem_modules_wanted {χ : Type} {c : χ} {w : WriteCall χ} (hw : w ∈ wanted c modules payload)
    (hm : m ∈ w.modules) : m ∈ modules := by
  rcases mem_wanted hw with ⟨value, _, _, rfl⟩ | ⟨values, x, _, hx, rfl⟩
  · exact hm
  · rw [List.mem_singleton.mp hm]
    exact (List.of_mem_zip hx).1

/-- Each selected module is named by one of the writes. -/
theorem exists_wanted {c : Channel} (hm : m ∈ modules)
    (fits : ∀ values, payload = .perModule values → values.length = modules.length) :
    ∃ w ∈ wanted c modules payload, m ∈ w.modules := by
  cases payload with
  | scalar value =>
    rw [wanted_scalar _ _ (List.ne_nil_of_mem hm)]
    exact ⟨_, List.mem_singleton_self _, hm⟩
  | perModule values =>
    obtain ⟨k, hk, rfl⟩ := List.mem_iff_getElem.mp hm
    have hlength := fits values rfl
    refine ⟨⟨c, values[k], [modules[k]]⟩, ?_, List.mem_singleton_self _⟩
    refine List.mem_iff_getElem.mpr ⟨k, ?_, ?_⟩
    · simp only [wanted, List.length_zipWith]
      omega
    · simp only [wanted, List.getElem_zipWith]

end Property

namespace Dac

/-- A write to the selected modules of a DAC that the detector carries out whole. -/
structure Written (d : Dac) (s : Simulator) (selector : Selector) (payload : Payload)
    (modules : List Nat) : Prop where
  resolves : selector.resolve s.modules = .ok modules
  fits : ∀ values, payload = .perModule values → values.length = modules.length
  made : (s.writeAll (Property.wanted ⟨d.register, .raw⟩ modules payload)).1 = .ok ()

section
variable {d : Dac} {s : Simulator} {selector : Selector} {payload : Payload} {modules : List Nat}

theorem resolves_of_ok (ok : ((d.setModules selector payload).run detector s).result = .ok ()) :
    ∃ modules, selector.resolve s.modules = .ok modules ∧
      ∀ values, payload = .perModule values → values.length = modules.length := by
  obtain ⟨u, hrecord, hu⟩ := setModules_recorded
    (Program.run_recorded detector (d.setModules selector payload) s)
  rw [ok] at hu
  obtain ⟨n, _, hcounts, hend⟩ := Property.write_recorded hu
  have hn : n = s.modules := by
    refine counts_run (d.setModules selector payload) s n ?_
    rw [hrecord, Exchange.counts_append, hcounts]
    exact List.mem_append_right _ (List.mem_singleton_self n)
  subst hn
  rcases hend with ⟨e, _, _, he⟩ | ⟨modules, hm, ⟨values, _, _, _, he⟩ | ⟨fits, _⟩⟩
  · cases he
  · cases he
  · exact ⟨modules, hm, fits⟩

theorem written_of_ok (resolves : selector.resolve s.modules = .ok modules)
    (ok : ((d.setModules selector payload).run detector s).result = .ok ()) :
    d.Written s selector payload modules := by
  obtain ⟨found, hfound, fits⟩ := resolves_of_ok ok
  obtain rfl : found = modules := Except.ok.inj (hfound.symm.trans resolves)
  exact ⟨resolves, fits, (d.setModules_carries resolves fits).ok_iff.mp ok⟩

namespace Written

theorem result (h : d.Written s selector payload modules) :
    ((d.setModules selector payload).run detector s).result = .ok () :=
  (d.setModules_carries h.resolves h.fits).ok_iff.mpr h.made

theorem ascending (h : d.Written s selector payload modules) : modules.Pairwise (· < ·) :=
  (Selector.resolve_ok h.resolves).1

theorem distinct (h : d.Written s selector payload modules) : modules.Nodup :=
  h.ascending.imp Nat.ne_of_lt

theorem below (h : d.Written s selector payload modules) {m : Nat} (hm : m ∈ modules) :
    m < s.modules :=
  (Selector.resolve_ok h.resolves).2 m hm

theorem length_spread (h : d.Written s selector payload modules) :
    (payload.spread modules.length).length = modules.length := by
  cases payload with
  | scalar value => exact List.length_replicate
  | perModule values => exact h.fits values rfl

theorem takes (h : d.Written s selector payload modules) :
    ∀ w ∈ Property.wanted ⟨d.register, .raw⟩ modules payload, s.Takes w :=
  (writeAll_ok_iff.mp h.made).1

theorem checkModules (h : d.Written s selector payload modules) :
    s.checkModules modules = .ok () := by
  rw [checkModules_ok_iff]
  intro m hm
  obtain ⟨w, hw, hmw⟩ := Property.exists_wanted hm h.fits
  exact checkModules_ok_iff.mp (h.takes w hw).modules m hmw

theorem checkRegister (h : d.Written s selector payload modules) (nonempty : modules ≠ []) :
    s.checkRegister d.register = .ok () := by
  obtain ⟨m, hm⟩ := List.exists_mem_of_ne_nil modules nonempty
  obtain ⟨w, hw, _⟩ := Property.exists_wanted hm h.fits
  have hregister := (h.takes w hw).register
  rwa [Property.wanted_channel w hw] at hregister

theorem sameSetting (h : d.Written s selector payload modules) :
    SameSetting s ((d.setModules selector payload).run detector s).state := by
  rw [(d.setModules_carries h.resolves h.fits).state]
  exact writeAll_sameSetting s _

/-- Each selected module holds its value of the payload afterwards, and all else is as it was. -/
theorem rawValue (h : d.Written s selector payload modules) (r : Register) {m : Nat}
    (hm : m < s.modules) :
    ((d.setModules selector payload).run detector s).state.rawValue r m =
      if d.register = r then
        ((modules.zip (payload.spread modules.length)).lookup m).getD (s.rawValue r m)
      else s.rawValue r m := by
  rw [(d.setModules_carries h.resolves h.fits).state,
    rawValue_writeAll Property.wanted_raw h.made r hm]
  split
  · rename_i hr
    rw [← hr, Property.foldl_leave_wanted h.distinct]
  · rename_i hr
    exact Property.foldl_leave_wanted_ne hr

theorem rawValue_selected (h : d.Written s selector payload modules) {k m : Nat}
    (hm : modules[k]? = some m) :
    (payload.spread modules.length)[k]? =
      some (((d.setModules selector payload).run detector s).state.rawValue d.register m) := by
  obtain ⟨hk, _⟩ := List.getElem?_eq_some_iff.mp hm
  have hvalue : k < (payload.spread modules.length).length := h.length_spread.symm ▸ hk
  rw [h.rawValue d.register (h.below (List.mem_of_getElem? hm)), if_pos rfl,
    lookup_zip h.distinct hm, List.getElem?_eq_getElem hvalue, Option.getD_some]

theorem map_rawValue (h : d.Written s selector payload modules) :
    modules.map (((d.setModules selector payload).run detector s).state.rawValue d.register) =
      payload.spread modules.length := by
  apply List.ext_getElem?
  intro k
  rw [List.getElem?_map]
  cases hm : modules[k]? with
  | some m => exact (h.rawValue_selected hm).symm
  | none =>
    rw [List.getElem?_eq_none_iff, ← h.length_spread] at hm
    exact (List.getElem?_eq_none hm).symm

/-- The checks that the write has passed do not stop the read. -/
theorem result_getModules (h : d.Written s selector payload modules) :
    ((d.getModules selector).run detector
        ((d.setModules selector payload).run detector s).state).result =
      .ok (payload.spread modules.length) := by
  have hsetting := h.sameSetting
  have hvalues := h.map_rawValue
  generalize ((d.setModules selector payload).run detector s).state = s' at hsetting hvalues ⊢
  rw [getModules, run_read, hsetting.modules, h.resolves]
  by_cases hempty : modules.isEmpty = true
  · have hnone : modules = [] := List.isEmpty_iff.mp hempty
    subst hnone
    exact congrArg Except.ok hvalues
  · have hregister := h.checkRegister fun hnone => hempty (List.isEmpty_iff.mpr hnone)
    have hread : s'.readValues d.stepProperty.channel modules =
        .ok (payload.spread modules.length) := by
      rw [stepProperty, readValues_raw, hsetting.checkModules, h.checkModules,
        checkRegister_congr hsetting.make, hregister, hvalues]
      rfl
    simp only [hempty, Bool.false_eq_true, ↓reduceIte, hread]

theorem values_selected (h : d.Written s selector payload modules) {k m : Nat}
    (hm : modules[k]? = some m) :
    (((d.setModules selector payload).run detector s).state.values d.register)[m]? =
      (payload.spread modules.length)[k]? := by
  have hbelow : m < s.modules := h.below (List.mem_of_getElem? hm)
  rw [getElem?_values, h.sameSetting.modules, if_pos hbelow, h.rawValue_selected hm]

theorem values_not_mem (h : d.Written s selector payload modules) {m : Nat} (hm : m ∉ modules) :
    (((d.setModules selector payload).run detector s).state.values d.register)[m]? =
      (s.values d.register)[m]? := by
  rw [getElem?_values, getElem?_values, h.sameSetting.modules]
  by_cases hbelow : m < s.modules
  · rw [if_pos hbelow, if_pos hbelow, h.rawValue d.register hbelow, lookup_zip_of_not_mem hm,
      Option.getD_none, ite_self]
  · rw [if_neg hbelow, if_neg hbelow]

theorem values_ne (h : d.Written s selector payload modules) {r : Register} (hr : r ≠ d.register) :
    ((d.setModules selector payload).run detector s).state.values r = s.values r := by
  rw [values, values, h.sameSetting.modules]
  apply List.map_congr_left
  intro m hm
  rw [h.rawValue r (List.mem_range.mp hm), if_neg (Ne.symm hr)]

end Written

/-- A write that succeeds can be read: for the selected modules in ascending order a read gives the
values as they were written, the first value for the first module, and so on. What the write was not
for is left as it was. -/
theorem getModules_after_setModules
    (ok : ((d.setModules selector payload).run detector s).result = .ok ()) :
    let s' := ((d.setModules selector payload).run detector s).state
    ∃ modules, selector.resolve s.modules = .ok modules ∧ modules.Pairwise (· < ·) ∧
      (∀ m, m ∈ modules ↔ selector.Names s.modules m) ∧
      (payload.spread modules.length).length = modules.length ∧
      ((d.getModules selector).run detector s').result = .ok (payload.spread modules.length) ∧
      (∀ (k m : Nat), modules[k]? = some m →
        (s'.values d.register)[m]? = (payload.spread modules.length)[k]?) ∧
      (∀ m : Nat, m ∉ modules → (s'.values d.register)[m]? = (s.values d.register)[m]?) ∧
      ∀ r, r ≠ d.register → s'.values r = s.values r := by
  obtain ⟨modules, resolves, _⟩ := resolves_of_ok ok
  have h := written_of_ok resolves ok
  exact ⟨modules, resolves, h.ascending, fun m => Selector.mem_resolve resolves, h.length_spread,
    h.result_getModules, fun k m => h.values_selected, fun m => h.values_not_mem,
    fun r => h.values_ne⟩

/-- The modules are named out of order and twice, the values lie outside the bounds, and the module
between those that are named fails. -/
theorem getModules_after_setModules_unordered :
    let d : Dac := ⟨"vth1", ⟨0⟩, 0, 4000, 1200⟩
    let selector : Selector := .modules [2, 0, 2]
    let s := ((Simulator.ofModules 3).failAfterWrites (some 2)).failModule (some 1)
    let o := (d.setModules selector (.perModule [9000, -1])).run detector s
    o.result = .ok () ∧
      ((d.getModules selector).run detector o.state).result = .ok [9000, -1] ∧
      (o.state.values ⟨0⟩)[1]? = some 0 ∧ o.state.values ⟨1⟩ = [0, 0, 0] := by
  intro d selector s o
  have ok : o.result = .ok () := rfl
  obtain ⟨modules, resolves, _, _, _, hread, _, hkept, hothers⟩ := getModules_after_setModules ok
  obtain rfl : [0, 2] = modules := Except.ok.inj resolves
  exact ⟨ok, hread, hkept 1 (by decide), hothers ⟨1⟩ (by decide)⟩

namespace Written

/-- What is left depends on the values for the modules alone, not on the calls that wrote them. -/
theorem values_congr {other : Payload} (h : d.Written s selector payload modules)
    (h' : d.Written s selector other modules)
    (same : payload.spread modules.length = other.spread modules.length) (r : Register) :
    ((d.setModules selector payload).run detector s).state.values r =
      ((d.setModules selector other).run detector s).state.values r := by
  rw [values, values, h.sameSetting.modules, h'.sameSetting.modules]
  apply List.map_congr_left
  intro m hm
  have hm : m < s.modules := List.mem_range.mp hm
  rw [h.rawValue r hm, h'.rawValue r hm, same]

/-- The modules that are written one by one can be written at once, for one of the writes. -/
theorem scalar_of_sequence {value : Int32}
    (h : d.Written s selector (.perModule (List.replicate modules.length value)) modules) :
    d.Written s selector (.scalar value) modules := by
  refine ⟨h.resolves, nofun, ?_⟩
  by_cases hnone : modules = []
  · rw [hnone]
    rfl
  · have hpos : 0 < modules.length := List.length_pos_iff.mpr hnone
    obtain ⟨_, affords⟩ := writeAll_ok_iff.mp h.made
    rw [Property.wanted, List.length_zipWith, List.length_replicate, Nat.min_self] at affords
    rw [Property.wanted_scalar _ _ hnone]
    refine writeAll_ok_iff.mpr ⟨?_, fun left hleft => Nat.le_trans hpos (affords left hleft)⟩
    intro w hw
    obtain rfl := List.mem_singleton.mp hw
    exact ⟨h.checkModules, h.checkRegister hnone, _, rfl⟩

end Written

/-- A write of one value that is refused is refused as a whole. -/
theorem state_scalar_refused {value : Int32} {e : DacError}
    (resolves : selector.resolve s.modules = .ok modules)
    (refused : ((d.setModules selector (.scalar value)).run detector s).result = .error e) :
    ((d.setModules selector (.scalar value)).run detector s).state = s := by
  have hcarries : s.Carries (d.setModules selector (.scalar value)) _ :=
    d.setModules_carries resolves nofun
  rw [hcarries.state]
  by_cases hnone : modules = []
  · rw [hnone]
    rfl
  · rw [Property.wanted_scalar _ _ hnone] at hcarries ⊢
    cases hcarry : (s.carry ⟨⟨d.register, .raw⟩, value, modules⟩).result with
    | ok =>
      rw [hcarries.ok_iff.mpr (congrArg Prod.fst (writeAll_cons_ok hcarry))] at refused
      cases refused
    | error e => rw [writeAll_cons_error hcarry, carry_error hcarry]

/-- One value for the selected modules is written wherever as many copies of it are, and leaves the
same values. It is refused only where the copies are refused too, and then nothing has changed. -/
theorem scalar_follows_sequence (resolves : selector.resolve s.modules = .ok modules)
    (value : Int32) :
    let one := (d.setModules selector (.scalar value)).run detector s
    let each :=
      (d.setModules selector (.perModule (List.replicate modules.length value))).run detector s
    (each.result = .ok () → one.result = .ok () ∧ ∀ r, one.state.values r = each.state.values r) ∧
      ∀ e, one.result = .error e → one.state = s ∧ ∃ e', each.result = .error e' := by
  intro one each
  have hfollows (ok : each.result = .ok ()) :
      one.result = .ok () ∧ ∀ r, one.state.values r = each.state.values r := by
    have heach := written_of_ok resolves ok
    have hone := heach.scalar_of_sequence
    exact ⟨hone.result, hone.values_congr heach rfl⟩
  refine ⟨hfollows, fun e refused => ⟨state_scalar_refused resolves refused, ?_⟩⟩
  cases hresult : each.result with
  | ok =>
    rw [(hfollows hresult).1] at refused
    cases refused
  | error e' => exact ⟨e', rfl⟩

/-- Two writes suffice for two copies. Without a write left neither form is written. -/
theorem scalar_follows_sequence_budget :
    let d : Dac := ⟨"vth1", ⟨0⟩, 0, 4000, 1200⟩
    let selector : Selector := .modules [2, 0, 2]
    let few := (Simulator.ofModules 3).failAfterWrites (some 2)
    let spent := (Simulator.ofModules 3).failAfterWrites (some 0)
    let one := (d.setModules selector (.scalar (-7))).run detector
    let each := (d.setModules selector (.perModule [-7, -7])).run detector
    selector.resolve few.modules = .ok [0, 2] ∧ (each few).result = .ok () ∧
      (one few).result = .ok () ∧ (one few).state.values ⟨0⟩ = (each few).state.values ⟨0⟩ ∧
      selector.resolve spent.modules = .ok [0, 2] ∧
      (one spent).result = .error (.communication .timeout) ∧ (one spent).state = spent ∧
      ∃ e, (each spent).result = .error e := by
  intro d selector few spent one each
  have resolves : selector.resolve few.modules = .ok [0, 2] := rfl
  have ok : (each few).result = .ok () := rfl
  have refused : (one spent).result = .error (.communication .timeout) := rfl
  obtain ⟨hfew, _⟩ := scalar_follows_sequence (d := d) resolves (-7)
  obtain ⟨_, hspent⟩ := scalar_follows_sequence (d := d) (s := spent) resolves (-7)
  obtain ⟨hone, hvalues⟩ := hfew ok
  obtain ⟨hstate, hrefused⟩ := hspent _ refused
  exact ⟨resolves, ok, hone, hvalues ⟨0⟩, resolves, refused, hstate, hrefused⟩

end

end Dac

end DacBank
