import Mathlib.Data.List.Forall2
import DacBank.Proofs.Document.Field

namespace DacBank.Document

variable {f : Format}

def dacKeys : List String :=
  ["name", "register", "min", "max", "default"]

/-- A document that is read as this DAC: its fields are there, each in the one form of its value. -/
structure ShowsDac (f : Format) (v : Value) (d : Dac) : Prop where
  shape : RecordShape f dacKeys v
  name : shown "name" 0 v = some (.text d.name)
  register : shown "register" 1 v = some (writeRegister d.register)
  min : shown "min" 2 v = some (writeWord32 d.min)
  max : shown "max" 3 v = some (writeWord32 d.max)
  default : shown "default" 4 v = some (writeWord32 d.default)

theorem checkDacField_eq_none_iff (f : Format) (key : String) (v : Value) :
    checkDacField f key v = none ↔ key ∉ dacKeys := by
  simp only [checkDacField, dacKeys]
  grind

theorem readDac_table_eq_ok_iff {entries : Entries} {d : Dac} :
    readDac f (.table entries) = .ok d ↔ ShowsDac f (.table entries) d := by
  simp only [readDac, attempt_bind_ok, field_sorted_eq_ok_iff "name" 0,
    field_sorted_eq_ok_iff "register" 1, field_sorted_eq_ok_iff "min" 2,
    field_sorted_eq_ok_iff "max" 3, field_sorted_eq_ok_iff "default" 4, readText_eq_ok_iff,
    readRegister_eq_ok_iff, readWord32_eq_ok_iff, exists_eq_right,
    checkEntries_sorted_eq_ok_iff f (checkDacField_eq_none_iff f)]
  constructor
  · rintro ⟨_, ⟨hshape, _⟩, name, hname, register, hregister, min, hmin, max, hmax, default,
      hdefault, hd⟩
    cases hd
    exact ⟨hshape, hname, hregister, hmin, hmax, hdefault⟩
  · rintro ⟨hshape, hname, hregister, hmin, hmax, hdefault⟩
    refine ⟨(), ⟨hshape, ?_⟩, _, hname, _, hregister, _, hmin, _, hmax, _, hdefault, rfl⟩
    simp only [shown] at hname hregister hmin hmax hdefault
    simp [dacKeys, checkDacField, discard_eq_ok_iff, hname, hregister, hmin, hmax, hdefault,
      readText_eq_ok_iff, readRegister_eq_ok_iff, readWord32_eq_ok_iff]

theorem readDac_list_eq_ok_iff {items : List Value} {d : Dac} :
    readDac f (.list items) = .ok d ↔ ShowsDac f (.list items) d := by
  have hsize : dacKeys.length = RecordKind.dac.size := rfl
  simp only [readDac, attempt_bind_ok, item_eq_ok_iff .dac "name" 0,
    item_eq_ok_iff .dac "register" 1, item_eq_ok_iff .dac "min" 2,
    item_eq_ok_iff .dac "max" 3, item_eq_ok_iff .dac "default" 4, readText_eq_ok_iff,
    readRegister_eq_ok_iff, readWord32_eq_ok_iff, exists_eq_right, checkSurplus_eq_ok_iff hsize]
  constructor
  · rintro ⟨name, hname, register, hregister, min, hmin, max, hmax, default, hdefault, _, hshape,
      hd⟩
    cases hd
    exact ⟨hshape, hname, hregister, hmin, hmax, hdefault⟩
  · rintro ⟨hshape, hname, hregister, hmin, hmax, hdefault⟩
    exact ⟨_, hname, _, hregister, _, hmin, _, hmax, _, hdefault, (), hshape, rfl⟩

theorem readDac_eq_ok_iff {v : Value} {d : Dac} : readDac f v = .ok d ↔ ShowsDac f v d := by
  cases v with
  | table entries => exact readDac_table_eq_ok_iff
  | list items => exact readDac_list_eq_ok_iff
  | _ =>
    constructor
    · rintro ⟨⟩
    · intro h
      cases h.shape

/-- Of two entries of a key the last counts, and a key of no field is passed over. -/
example : readDac .json (.table [("max", .integer 9), ("unit", .text "mV"), ("default", .integer 2),
    ("name", .text "v"), ("min", .integer (-1)), ("register", .integer 65535),
    ("max", .integer 3)]) = .ok ⟨"v", ⟨65535⟩, -1, 3, 2⟩ :=
  rfl

def converterKeys : List String :=
  ["min_mv", "max_mv", "steps"]

structure ShowsConverter (f : Format) (v : Value) (c : Converter) : Prop where
  shape : RecordShape f converterKeys v
  low : shown "min_mv" 0 v = some (writeWord32 c.lowMillivolt)
  high : shown "max_mv" 1 v = some (writeWord32 c.highMillivolt)
  steps : shown "steps" 2 v = some (writeWord32 c.steps)

theorem checkConverterField_eq_none_iff (f : Format) (key : String) (v : Value) :
    checkConverterField f key v = none ↔ key ∉ converterKeys := by
  simp only [checkConverterField, converterKeys]
  grind

theorem readConverter_eq_ok_iff {v : Value} {c : Converter} :
    readConverter f v = .ok c ↔ ShowsConverter f v c := by
  cases v with
  | table entries =>
    simp only [readConverter, attempt_bind_ok, field_sorted_eq_ok_iff "min_mv" 0,
      field_sorted_eq_ok_iff "max_mv" 1, field_sorted_eq_ok_iff "steps" 2, readWord32_eq_ok_iff,
      exists_eq_right, checkEntries_sorted_eq_ok_iff f (checkConverterField_eq_none_iff f)]
    constructor
    · rintro ⟨_, ⟨hshape, _⟩, low, hlow, high, hhigh, steps, hsteps, hc⟩
      cases hc
      exact ⟨hshape, hlow, hhigh, hsteps⟩
    · rintro ⟨hshape, hlow, hhigh, hsteps⟩
      refine ⟨(), ⟨hshape, ?_⟩, _, hlow, _, hhigh, _, hsteps, rfl⟩
      simp only [shown] at hlow hhigh hsteps
      simp [converterKeys, checkConverterField, discard_eq_ok_iff, hlow, hhigh, hsteps,
        readWord32_eq_ok_iff]
  | list items =>
    have hsize : converterKeys.length = RecordKind.converter.size := rfl
    simp only [readConverter, attempt_bind_ok, item_eq_ok_iff .converter "min_mv" 0,
      item_eq_ok_iff .converter "max_mv" 1, item_eq_ok_iff .converter "steps" 2,
      readWord32_eq_ok_iff, exists_eq_right, checkSurplus_eq_ok_iff hsize]
    constructor
    · rintro ⟨low, hlow, high, hhigh, steps, hsteps, _, hshape, hc⟩
      cases hc
      exact ⟨hshape, hlow, hhigh, hsteps⟩
    · rintro ⟨hshape, hlow, hhigh, hsteps⟩
      exact ⟨_, hlow, _, hhigh, _, hsteps, (), hshape, rfl⟩
  | _ =>
    constructor
    · rintro ⟨⟩
    · intro h
      cases h.shape

/-- A unit is shown by its name, or by a table with no key but this and nothing under it. -/
inductive ShowsUnit : Value → MeasureUnit → Prop where
  | text (u : MeasureUnit) : ShowsUnit (.text u.name) u
  | table {entries : Entries} {u : MeasureUnit}
      (empty : Entries.last? u.name entries = some .null)
      (no_other : ∀ e ∈ entries, e.1 = u.name) : ShowsUnit (.table entries) u

theorem ofName_eq_ok_iff {name : String} {u : MeasureUnit} :
    readUnit.ofName name = .ok u ↔ name = u.name := by
  unfold readUnit.ofName
  split
  · rename_i hraw
    subst hraw
    cases u <;> decide
  · split
    · rename_i _ hmillivolt
      subst hmillivolt
      cases u <;> decide
    · rename_i hraw hmillivolt
      cases u
      · simpa using hraw
      · simpa using hmillivolt

theorem readUnit_table_eq_ok_iff {entries : Entries} {u : MeasureUnit} :
    readUnit f (.table entries) = .ok u ↔ ShowsUnit (.table entries) u := by
  constructor
  · intro h
    simp only [readUnit] at h
    split at h
    · rename_i name content hsorted
      obtain ⟨hlast, hkeys⟩ := Entries.sorted_eq_singleton_iff.mp hsorted
      obtain ⟨unit, hunit, hcontent⟩ := attempt_bind_ok.mp h
      obtain rfl := ofName_eq_ok_iff.mp hunit
      split at hcontent
      · cases hcontent
        exact .table hlast hkeys
      · cases hcontent
    · cases h
  · intro h
    cases h with
    | table hempty hkeys =>
      have hsorted := Entries.sorted_eq_singleton_iff.mpr ⟨hempty, hkeys⟩
      have hunit : readUnit.ofName u.name = .ok u := ofName_eq_ok_iff.mpr rfl
      simp [readUnit, hsorted, hunit]

theorem readUnit_eq_ok_iff {v : Value} {u : MeasureUnit} :
    readUnit f v = .ok u ↔ ShowsUnit v u := by
  cases v with
  | text name =>
    rw [readUnit, ofName_eq_ok_iff]
    constructor
    · rintro rfl
      exact .text u
    · rintro ⟨⟩
      rfl
  | table entries => exact readUnit_table_eq_ok_iff
  | _ =>
    constructor
    · rintro ⟨⟩
    · rintro ⟨⟩

def tableKeys : List String :=
  ["detector", "dacs"]

/-- A detector that is not there, or null, is none. -/
inductive ShowsDetector : Option Value → Option String → Prop where
  | absent : ShowsDetector none none
  | null : ShowsDetector (some .null) none
  | text (name : String) : ShowsDetector (some (.text name)) (some name)

structure ShowsTable (f : Format) (v : Value) (t : Table) : Prop where
  shape : RecordShape f tableKeys v
  detector : ShowsDetector (shown "detector" 0 v) t.detector
  dacs : ∃ items, shown "dacs" 1 v = some (.list items) ∧ List.Forall₂ (ShowsDac f) items t.dacs

theorem readDetector_eq_ok_iff {v : Option Value} {detector : Option String} :
    readDetector f v = .ok detector ↔ ShowsDetector v detector := by
  cases v with
  | none =>
    constructor
    · rintro ⟨⟩
      exact .absent
    · rintro ⟨⟩
      rfl
  | some v =>
    rw [readDetector, readOptionalText_eq_ok_iff]
    constructor
    · rintro (⟨rfl, rfl⟩ | ⟨name, rfl, rfl⟩)
      · exact .null
      · exact .text name
    · intro h
      cases h with
      | null => exact .inl ⟨rfl, rfl⟩
      | text name => exact .inr ⟨name, rfl, rfl⟩

theorem mapM_readDac_eq_ok_iff {items : List Value} {dacs : List Dac} :
    items.mapM (readDac f) = .ok dacs ↔ List.Forall₂ (ShowsDac f) items dacs := by
  rw [mapM_ok_iff_map, ← List.forall₂_eq_eq_eq, List.forall₂_map_left_iff,
    List.forall₂_map_right_iff]
  simp only [readDac_eq_ok_iff]

theorem readDacList_eq_ok_iff {v : Value} {dacs : List Dac} :
    readDacList f v = .ok dacs ↔
      ∃ items, v = .list items ∧ List.Forall₂ (ShowsDac f) items dacs := by
  cases v with
  | list items => simp [readDacList, mapM_readDac_eq_ok_iff]
  | _ =>
    constructor
    · rintro ⟨⟩
    · rintro ⟨_, ⟨⟩, _⟩

theorem checkTableField_eq_none_iff (f : Format) (key : String) (v : Value) :
    checkTableField f key v = none ↔ key ∉ tableKeys := by
  simp only [checkTableField, tableKeys]
  grind

theorem readTable_table_eq_ok_iff {entries : Entries} {t : Table} :
    readTable f (.table entries) = .ok t ↔ ShowsTable f (.table entries) t := by
  simp only [readTable, attempt_bind_ok, Entries.get?_sorted, field_sorted_eq_ok_iff "dacs" 1,
    readDetector_eq_ok_iff, checkEntries_sorted_eq_ok_iff f (checkTableField_eq_none_iff f)]
  constructor
  · rintro ⟨_, ⟨hshape, _⟩, detector, hdetector, dacs, ⟨v, hv, hdacs⟩, ht⟩
    obtain ⟨items, rfl, hitems⟩ := readDacList_eq_ok_iff.mp hdacs
    cases ht
    exact ⟨hshape, hdetector, items, hv, hitems⟩
  · rintro ⟨hshape, hdetector, items, hv, hitems⟩
    have hdacs := readDacList_eq_ok_iff.mpr ⟨items, rfl, hitems⟩
    refine ⟨(), ⟨hshape, ?_⟩, _, hdetector, _, ⟨_, hv, hdacs⟩, rfl⟩
    simp only [shown] at hv hdetector
    have hnamed : ∀ v, Entries.last? "detector" entries = some v →
        ∃ a, readOptionalText f v = .ok a := by
      intro v hv
      rw [hv] at hdetector
      exact ⟨_, readDetector_eq_ok_iff.mpr hdetector⟩
    simpa [tableKeys, checkTableField, discard_eq_ok_iff, hv, hdacs] using hnamed

theorem readTable_list_eq_ok_iff {items : List Value} {t : Table} :
    readTable f (.list items) = .ok t ↔ ShowsTable f (.list items) t := by
  have hsize : tableKeys.length = RecordKind.table.size := rfl
  simp only [readTable, attempt_bind_ok, item_eq_ok_iff .table "dacs" 1, readDetector_eq_ok_iff,
    checkSurplus_eq_ok_iff hsize]
  constructor
  · rintro ⟨detector, hdetector, dacs, ⟨v, hv, hdacs⟩, _, hshape, ht⟩
    obtain ⟨documents, rfl, hdocuments⟩ := readDacList_eq_ok_iff.mp hdacs
    cases ht
    exact ⟨hshape, hdetector, documents, hv, hdocuments⟩
  · rintro ⟨hshape, hdetector, documents, hv, hdocuments⟩
    have hdacs := readDacList_eq_ok_iff.mpr ⟨documents, rfl, hdocuments⟩
    exact ⟨_, hdetector, _, ⟨_, hv, hdacs⟩, (), hshape, rfl⟩

theorem readTable_eq_ok_iff {v : Value} {t : Table} : readTable f v = .ok t ↔ ShowsTable f v t := by
  cases v with
  | table entries => exact readTable_table_eq_ok_iff
  | list items => exact readTable_list_eq_ok_iff
  | _ =>
    constructor
    · rintro ⟨⟩
    · intro h
      cases h.shape

/-- An integer between two bounds is shown. -/
def InRange (low high : Int) (v : Option Value) : Prop :=
  ∃ n, v = some (.integer n) ∧ low ≤ n ∧ n ≤ high

theorem inRange_writeWord32 (n : Int32) :
    InRange (-2147483648) 2147483647 (some (writeWord32 n)) :=
  ⟨n.toInt, rfl, n.minValue_le_toInt, n.toInt_le⟩

theorem inRange_writeRegister (r : Register) : InRange 0 65535 (some (writeRegister r)) :=
  ⟨r.raw.toNat, rfl, Int.natCast_nonneg _, Int.ofNat_le.mpr (Nat.le_of_lt_succ r.raw.toNat_lt)⟩

/-- The numbers that are shown for a DAC are of 16 bits for the register, and of 32 for the rest. -/
structure DacInRange (v : Value) : Prop where
  register : InRange 0 65535 (shown "register" 1 v)
  min : InRange (-2147483648) 2147483647 (shown "min" 2 v)
  max : InRange (-2147483648) 2147483647 (shown "max" 3 v)
  default : InRange (-2147483648) 2147483647 (shown "default" 4 v)

structure ConverterInRange (v : Value) : Prop where
  low : InRange (-2147483648) 2147483647 (shown "min_mv" 0 v)
  high : InRange (-2147483648) 2147483647 (shown "max_mv" 1 v)
  steps : InRange (-2147483648) 2147483647 (shown "steps" 2 v)

theorem ShowsDac.inRange {v : Value} {d : Dac} (h : ShowsDac f v d) : DacInRange v where
  register := h.register ▸ inRange_writeRegister d.register
  min := h.min ▸ inRange_writeWord32 d.min
  max := h.max ▸ inRange_writeWord32 d.max
  default := h.default ▸ inRange_writeWord32 d.default

theorem ShowsConverter.inRange {v : Value} {c : Converter} (h : ShowsConverter f v c) :
    ConverterInRange v where
  low := h.low ▸ inRange_writeWord32 c.lowMillivolt
  high := h.high ▸ inRange_writeWord32 c.highMillivolt
  steps := h.steps ▸ inRange_writeWord32 c.steps

theorem dacs_inRange {items : List Value} {dacs : List Dac}
    (h : List.Forall₂ (ShowsDac f) items dacs) : ∀ item ∈ items, DacInRange item := by
  induction h with
  | nil => exact nofun
  | cons hd _ ih => exact List.forall_mem_cons.mpr ⟨hd.inRange, ih⟩

theorem ShowsTable.inRange {v : Value} {t : Table} (h : ShowsTable f v t) :
    ∃ items, shown "dacs" 1 v = some (.list items) ∧ ∀ item ∈ items, DacInRange item := by
  obtain ⟨items, hitems, hdacs⟩ := h.dacs
  exact ⟨items, hitems, dacs_inRange hdacs⟩

end DacBank.Document
