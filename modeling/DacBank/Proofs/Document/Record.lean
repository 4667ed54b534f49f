import DacBank.Document.Record
import DacBank.Proofs.Attempts

namespace DacBank.Document

theorem readBounded_integer (f : Format) (wanted : Wanted) {low high n : Int} (hlow : low ≤ n)
    (hhigh : n ≤ high) : readBounded f wanted low high (.integer n) = .ok n := by
  simp [readBounded, hlow, hhigh]

theorem readRegister_writeRegister (f : Format) (r : Register) :
    readRegister f (writeRegister r) = .ok r := by
  have hlow : (0 : Int) ≤ r.raw.toNat := by omega
  have hhigh : (r.raw.toNat : Int) ≤ 65535 := by
    have := r.raw.toNat_lt
    omega
  rw [readRegister, writeRegister, readBounded_integer f _ hlow hhigh]
  simp [Except.map]

theorem readWord32_writeWord32 (f : Format) (n : Int32) :
    readWord32 f (writeWord32 n) = .ok n := by
  have hlow : Int32.minValue.toInt ≤ n.toInt := n.minValue_le_toInt
  have hhigh : n.toInt ≤ Int32.maxValue.toInt := n.toInt_le
  rw [readWord32, writeWord32, readBounded_integer f _ hlow hhigh]
  simp [Except.map]

/-- The entries of a DAC in the order of its fields. -/
def dacEntries (d : Dac) : Entries :=
  [("name", .text d.name), ("register", writeRegister d.register), ("min", writeWord32 d.min),
    ("max", writeWord32 d.max), ("default", writeWord32 d.default)]

theorem writeDac_eq (d : Dac) : writeDac d = .table (dacEntries d) :=
  rfl

theorem sorted_dacEntries (d : Dac) :
    (dacEntries d).sorted = [("default", writeWord32 d.default), ("max", writeWord32 d.max),
      ("min", writeWord32 d.min), ("name", .text d.name), ("register", writeRegister d.register)] :=
  rfl

theorem readDac_writeDac (f : Format) (d : Dac) : readDac f (writeDac d) = .ok d := by
  rw [writeDac_eq]
  have hcheck : checkEntries (checkDacField f) (dacEntries d).sorted = .ok () := by
    simp [sorted_dacEntries, checkEntries, checkDacField, discard, Except.map, readText,
      readRegister_writeRegister, readWord32_writeWord32]
  simp only [readDac, hcheck]
  simp [sorted_dacEntries, field, Entries.get?, readText,
      readRegister_writeRegister, readWord32_writeWord32]

theorem readDacList_map_writeDac (f : Format) (dacs : List Dac) :
    readDacList f (.list (dacs.map writeDac)) = .ok dacs := by
  unfold readDacList
  induction dacs with
  | nil => rfl
  | cons d dacs ih =>
    dsimp only at ih ⊢
    rw [List.map_cons, List.mapM_cons, readDac_writeDac, ih]
    rfl

theorem readConverter_writeConverter (f : Format) (c : Converter) :
    readConverter f (writeConverter c) = .ok c := by
  have hsorted : Entries.sorted [("min_mv", writeWord32 c.lowMillivolt),
      ("max_mv", writeWord32 c.highMillivolt), ("steps", writeWord32 c.steps)] =
    [("max_mv", writeWord32 c.highMillivolt), ("min_mv", writeWord32 c.lowMillivolt),
      ("steps", writeWord32 c.steps)] := rfl
  simp [writeConverter, readConverter, hsorted, checkEntries, checkConverterField, discard,
    Except.map, field, Entries.get?, readWord32_writeWord32]

theorem readUnit_writeUnit (f : Format) (u : MeasureUnit) : readUnit f (writeUnit u) = .ok u := by
  cases u <;> rfl

/-- The detector of a table as its entry, if it is named. -/
def detectorEntries (t : Table) : Entries :=
  match t.detector with
  | some name => [("detector", .text name)]
  | none => []

theorem writeTable_eq (t : Table) :
    writeTable t = .table (detectorEntries t ++ [("dacs", .list (t.dacs.map writeDac))]) := by
  rfl

theorem readTable_writeTable (f : Format) (t : Table) : readTable f (writeTable t) = .ok t := by
  obtain ⟨detector, dacs⟩ := t
  have hdacs := readDacList_map_writeDac f dacs
  cases detector with
  | none =>
    have hsorted : Entries.sorted [("dacs", .list (dacs.map writeDac))] =
      [("dacs", .list (dacs.map writeDac))] := rfl
    simp [writeTable, readTable, hsorted, checkEntries, checkTableField, discard, Except.map, hdacs,
      readDetector, field, Entries.get?]
  | some name =>
    have hsorted : Entries.sorted
        [("detector", .text name), ("dacs", .list (dacs.map writeDac))] =
      [("dacs", .list (dacs.map writeDac)), ("detector", .text name)] := rfl
    simp [writeTable, readTable, hsorted, checkEntries, checkTableField, discard, Except.map, hdacs,
      readDetector, readOptionalText, readText, field, Entries.get?]

end DacBank.Document
