import DacBank.Proofs.Document.Entries
import DacBank.Proofs.Document.Record

namespace DacBank.Document

variable {f : Format}

section
variable {v : Value}

theorem readText_eq_ok_iff {s : String} : readText f v = .ok s ↔ v = .text s := by
  cases v <;> simp [readText]

theorem readOptionalText_eq_ok_iff {s : Option String} :
    readOptionalText f v = .ok s ↔
      v = .null ∧ s = none ∨ ∃ name, v = .text name ∧ s = some name := by
  cases v <;> simp [readOptionalText, readText, Except.map, eq_comm]

theorem readBounded_eq_ok_iff {wanted : Wanted} {low high n : Int} :
    readBounded f wanted low high v = .ok n ↔ v = .integer n ∧ low ≤ n ∧ n ≤ high := by
  constructor
  · intro h
    unfold readBounded at h
    split at h
    · split at h
      · rename_i hbounds
        cases h
        exact ⟨rfl, hbounds⟩
      · split at h <;> cases h
    · cases h
  · rintro ⟨rfl, hlow, hhigh⟩
    exact readBounded_integer f wanted hlow hhigh

theorem readWord32_eq_ok_iff {n : Int32} : readWord32 f v = .ok n ↔ v = writeWord32 n := by
  constructor
  · intro h
    obtain ⟨k, hk, rfl⟩ := attempt_map_ok.mp h
    obtain ⟨rfl, hlow, hhigh⟩ := readBounded_eq_ok_iff.mp hk
    have hmax : k < 2 ^ 31 := Int.lt_of_le_of_lt hhigh (by decide)
    rw [writeWord32, Int32.toInt_ofInt_of_le hlow hmax]
  · rintro rfl
    exact readWord32_writeWord32 f n

theorem readRegister_eq_ok_iff {r : Register} :
    readRegister f v = .ok r ↔ v = writeRegister r := by
  constructor
  · intro h
    obtain ⟨k, hk, rfl⟩ := attempt_map_ok.mp h
    obtain ⟨rfl, hlow, hhigh⟩ := readBounded_eq_ok_iff.mp hk
    have hfits : k.toNat < UInt16.size :=
      (Int.toNat_lt hlow).mpr (Int.lt_of_le_of_lt hhigh (by decide))
    rw [writeRegister, UInt16.toNat_ofNat_of_lt' hfits, Int.toNat_of_nonneg hlow]
  · rintro rfl
    exact readRegister_writeRegister f r

end

/-- What a record shows for a field: in a table the value under its key, in a list the item at its
place. -/
def shown (key : String) (place : Nat) : Value → Option Value
  | .table entries => Entries.last? key entries
  | .list items => items[place]?
  | _ => none

/-- The shape of a record with these keys. Entries of other keys are passed over as long as they can
be read, and so are items beyond the fields where the format allows them. -/
inductive RecordShape (f : Format) (keys : List String) : Value → Prop where
  | table {entries : Entries}
      (others_readable : ∀ key v, key ∉ keys → Entries.last? key entries = some v →
        v.hasUnreadable = false) :
      RecordShape f keys (.table entries)
  | list {items : List Value}
      (no_surplus : f.refusesSurplus = true → items.length ≤ keys.length) :
      RecordShape f keys (.list items)

section
variable {α : Type} {entries : Entries} {items : List Value} {read : Value → Except Fault α} {a : α}
  {check : String → Value → Option (Except Fault Unit)} {keys : List String}

theorem field_sorted_eq_ok_iff (key : String) (place : Nat) :
    field entries.sorted key read = .ok a ↔
      ∃ v, shown key place (.table entries) = some v ∧ read v = .ok a := by
  unfold field
  rw [Entries.get?_sorted]
  simp only [shown]
  cases Entries.last? key entries <;> simp

theorem item_eq_ok_iff (kind : RecordKind) (key : String) (place : Nat) :
    item kind items place read = .ok a ↔
      ∃ v, shown key place (.list items) = some v ∧ read v = .ok a := by
  unfold item
  simp only [shown]
  cases items[place]? <;> simp

theorem discard_eq_ok_iff {r : Except Fault α} : discard r = .ok () ↔ ∃ a, r = .ok a := by
  cases r <;> simp [discard, Except.map]

theorem checkEntries_eq_ok_iff :
    checkEntries check entries = .ok () ↔ ∀ e ∈ entries, check e.1 e.2 = some (.ok ()) ∨
      check e.1 e.2 = none ∧ e.2.hasUnreadable = false := by
  induction entries with
  | nil => simp [checkEntries]
  | cons e entries ih =>
    obtain ⟨key, v⟩ := e
    rw [checkEntries, List.forall_mem_cons, ← ih]
    split
    · rename_i hcheck
      simp [hcheck]
    · rename_i hcheck
      simp [hcheck]
    · rename_i hcheck
      cases v.hasUnreadable <;> simp [hcheck]

/-- A check of the sorted entries looks at the last entry of each key. -/
theorem checkEntries_sorted_eq_ok_iff (f : Format)
    (hasked : ∀ key v, check key v = none ↔ key ∉ keys) {done : Unit} :
    checkEntries check entries.sorted = .ok done ↔ RecordShape f keys (.table entries) ∧
      ∀ key ∈ keys, ∀ v, Entries.last? key entries = some v → check key v = some (.ok ()) := by
  rw [checkEntries_eq_ok_iff]
  constructor
  · intro h
    refine ⟨.table fun key v hkey hv => ?_, fun key hkey v hv => ?_⟩
    · have hnone := (hasked key v).mpr hkey
      have hpasses := h (key, v) (Entries.mem_sorted.mpr hv)
      simpa [hnone] using hpasses
    · have hpasses := h (key, v) (Entries.mem_sorted.mpr hv)
      exact hpasses.resolve_right fun hnone => (hasked key v).mp hnone.1 hkey
  · rintro ⟨⟨hothers⟩, hfields⟩ ⟨key, v⟩ he
    have hv := Entries.mem_sorted.mp he
    by_cases hkey : key ∈ keys
    · exact .inl (hfields key hkey v hv)
    · exact .inr ⟨(hasked key v).mpr hkey, hothers key v hkey hv⟩

theorem checkSurplus_eq_ok_iff {kind : RecordKind} (hsize : keys.length = kind.size) {done : Unit} :
    checkSurplus f kind items = .ok done ↔ RecordShape f keys (.list items) := by
  unfold checkSurplus
  rw [← hsize]
  constructor
  · intro h
    split at h
    · cases h
    · rename_i hfits
      exact .list fun hrefuses => Nat.not_lt.mp fun hsurplus => hfits ⟨hrefuses, hsurplus⟩
  · intro h
    cases h with
    | list hfits => exact if_neg fun hsurplus => Nat.not_lt.mpr (hfits hsurplus.1) hsurplus.2

end

end DacBank.Document
