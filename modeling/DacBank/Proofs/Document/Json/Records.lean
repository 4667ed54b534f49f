import DacBank.Proofs.Document.Forms
import DacBank.Proofs.Document.Json.Printed

namespace DacBank.Document.Json

theorem printable_writeWord32 (depth : Nat) (n : Int32) :
    Printable (depth + 1) (writeWord32 n) := by
  have hleast : -Int.ofNat (Nat.pow 2 63) ≤ Int32.minValue.toInt := by decide
  have hmost : (2 : Int) ^ 31 ≤ Int.ofNat (Nat.pow 2 64) := by decide
  exact .integer ⟨Int.le_trans hleast n.minValue_le_toInt, Int.lt_of_lt_of_le n.toInt_lt hmost⟩

theorem printable_writeRegister (depth : Nat) (r : Register) :
    Printable (depth + 1) (writeRegister r) := by
  have hleast : -Int.ofNat (Nat.pow 2 63) ≤ 0 := by decide
  have hmost : 2 ^ 16 ≤ Nat.pow 2 64 := by decide
  exact .integer ⟨Int.le_trans hleast (Int.natCast_nonneg _),
    Int.ofNat_lt.mpr (Nat.lt_of_lt_of_le r.raw.toNat_lt hmost)⟩

theorem printable_writeUnit (depth : Nat) (u : MeasureUnit) : Printable (depth + 1) (writeUnit u) :=
  .text u.name

theorem printable_writeDac (depth : Nat) (d : Dac) : Printable (depth + 2) (writeDac d) := by
  refine .table fun e he => ?_
  simp only [List.mem_cons, List.not_mem_nil, or_false] at he
  obtain rfl | rfl | rfl | rfl | rfl := he
  · exact .text d.name
  · exact printable_writeRegister depth d.register
  · exact printable_writeWord32 depth d.min
  · exact printable_writeWord32 depth d.max
  · exact printable_writeWord32 depth d.default

theorem printable_writeConverter (depth : Nat) (c : Converter) :
    Printable (depth + 2) (writeConverter c) := by
  refine .table fun e he => ?_
  simp only [List.mem_cons, List.not_mem_nil, or_false] at he
  obtain rfl | rfl | rfl := he
  · exact printable_writeWord32 depth c.lowMillivolt
  · exact printable_writeWord32 depth c.highMillivolt
  · exact printable_writeWord32 depth c.steps

theorem printable_writeTable (depth : Nat) (t : Table) : Printable (depth + 4) (writeTable t) := by
  rw [writeTable_eq]
  refine .table fun e he => ?_
  obtain hdetector | hdacs := List.mem_append.mp he
  · unfold detectorEntries at hdetector
    split at hdetector
    · rename_i name _
      rw [List.mem_singleton.mp hdetector]
      exact .text name
    · cases hdetector
  · rw [List.mem_singleton.mp hdacs]
    refine .list fun v hv => ?_
    obtain ⟨d, _, rfl⟩ := List.mem_map.mp hv
    exact printable_writeDac depth d

/-- Values are written as JSON texts, each as one of its own, and read back from them. `Shows` says
which documents are read as a value, and all of these are rewritten to its text. -/
structure Faithful {α : Type} (read : Value → Except Fault α) (form : α → Value)
    (Shows : Value → α → Prop) : Prop where
  reads_written : ∀ a, (read? (write (form a))).map read = some (.ok a)
  accepts : ∀ v a, read v = .ok a ↔ Shows v a
  rewrites : ∀ v a, read v = .ok a → ∃ w, read? (write (form a)) = some w ∧ read w = .ok a ∧
    ∀ b, read w = .ok b → write (form b) = write (form a)
  injective : ∀ a b, write (form a) = write (form b) → a = b

theorem Faithful.of_printable {α : Type} {read : Value → Except Fault α} {form : α → Value}
    {Shows : Value → α → Prop} (hprintable : ∀ a, Printable nestingLimit (form a))
    (hread : ∀ a, read (form a) = .ok a) (haccepts : ∀ v a, read v = .ok a ↔ Shows v a) :
    Faithful read form Shows where
  reads_written a := by rw [read?_write (hprintable a), Option.map_some, hread]
  accepts := haccepts
  rewrites v a _ := by
    refine ⟨form a, read?_write (hprintable a), hread a, ?_⟩
    intro b hb
    cases (hread a).symm.trans hb
    rfl
  injective a b htexts := by
    have hforms : some (form a) = some (form b) := by
      rw [← read?_write (hprintable a), htexts, read?_write (hprintable b)]
    have hvalues := hread a
    rw [Option.some.inj hforms, hread b] at hvalues
    exact (Except.ok.inj hvalues).symm

theorem dac_faithful : Faithful (readDac .json) writeDac (ShowsDac .json) :=
  .of_printable (printable_writeDac 126) (readDac_writeDac .json) fun _ _ => readDac_eq_ok_iff

theorem register_faithful :
    Faithful (readRegister .json) writeRegister (fun v r => v = writeRegister r) :=
  .of_printable (printable_writeRegister 127) (readRegister_writeRegister .json) fun _ _ =>
    readRegister_eq_ok_iff

theorem unit_faithful : Faithful (readUnit .json) writeUnit ShowsUnit :=
  .of_printable (printable_writeUnit 127) (readUnit_writeUnit .json) fun _ _ => readUnit_eq_ok_iff

theorem converter_faithful :
    Faithful (readConverter .json) writeConverter (ShowsConverter .json) :=
  .of_printable (printable_writeConverter 126) (readConverter_writeConverter .json) fun _ _ =>
    readConverter_eq_ok_iff

theorem table_faithful : Faithful (readTable .json) writeTable (ShowsTable .json) :=
  .of_printable (printable_writeTable 124) (readTable_writeTable .json) fun _ _ =>
    readTable_eq_ok_iff

/-- Every record is read back from its JSON text. A document is read as a record just when it shows
its fields, in a table or a list, and is then rewritten to the text of that record; and no field
shows a number that its type does not hold. -/
theorem records_faithful :
    (Faithful (readDac .json) writeDac (ShowsDac .json) ∧
      Faithful (readRegister .json) writeRegister (fun v r => v = writeRegister r) ∧
      Faithful (readUnit .json) writeUnit ShowsUnit ∧
      Faithful (readConverter .json) writeConverter (ShowsConverter .json) ∧
      Faithful (readTable .json) writeTable (ShowsTable .json)) ∧
    (∀ v d, readDac .json v = .ok d → DacInRange v) ∧
    (∀ v r, readRegister .json v = .ok r → InRange 0 65535 (some v)) ∧
    (∀ v c, readConverter .json v = .ok c → ConverterInRange v) ∧
    ∀ v t, readTable .json v = .ok t →
      ∃ items, shown "dacs" 1 v = some (.list items) ∧ ∀ item ∈ items, DacInRange item := by
  refine ⟨⟨dac_faithful, register_faithful, unit_faithful, converter_faithful, table_faithful⟩,
    ?_, ?_, ?_, ?_⟩
  · intro v d hd
    exact (readDac_eq_ok_iff.mp hd).inRange
  · intro v r hr
    rw [readRegister_eq_ok_iff.mp hr]
    exact inRange_writeRegister r
  · intro v c hc
    exact (readConverter_eq_ok_iff.mp hc).inRange
  · intro v t ht
    exact (readTable_eq_ok_iff.mp ht).inRange

end DacBank.Document.Json
