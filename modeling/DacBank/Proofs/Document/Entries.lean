import DacBank.Document.Field
import DacBank.Proofs.Attempts

namespace DacBank.Document.Entries

/-- The value under a key that counts: that of its last entry. -/
def last? (key : String) (entries : Entries) : Option Value :=
  get? key entries.reverse

theorem get?_insert (key k : String) (v : Value) (entries : Entries) :
    get? key (insert k v entries) = if k = key then some v else get? key entries := by
  induction entries with
  | nil => rfl
  | cons e entries ih =>
    obtain ⟨k', w⟩ := e
    simp only [insert]
    split
    · rfl
    · split
      · rename_i _ hsame
        subst hsame
        by_cases hkey : k = key <;> simp [get?, hkey]
      · rename_i _ hother
        by_cases hkey : k' = key
        · subst hkey
          simp [get?, hother]
        · simp [get?, hkey, ih]

theorem get?_sorted (key : String) (entries : Entries) :
    get? key (sorted entries) = last? key entries := by
  unfold sorted last?
  -- Seen from the back, the first entry of a key is the one inserted last.
  rw [List.foldl_eq_foldr_reverse]
  induction entries.reverse with
  | nil => rfl
  | cons e es ih =>
    rw [List.foldr_cons, get?_insert, ih]
    rfl

theorem mem_of_get? {key : String} {v : Value} {entries : Entries}
    (h : get? key entries = some v) : (key, v) ∈ entries := by
  induction entries with
  | nil => cases h
  | cons e entries ih =>
    obtain ⟨k, w⟩ := e
    rw [get?] at h
    split at h
    · rename_i hkey
      subst hkey
      cases h
      exact List.mem_cons_self
    · exact List.mem_cons_of_mem _ (ih h)

theorem exists_get?_of_mem {key : String} {v : Value} {entries : Entries}
    (h : (key, v) ∈ entries) : ∃ w, get? key entries = some w := by
  induction entries with
  | nil => cases h
  | cons e entries ih =>
    obtain ⟨k, w⟩ := e
    by_cases hkey : k = key
    · exact ⟨w, by rw [get?, if_pos hkey]⟩
    · have hlater : (key, v) ∈ entries := by
        obtain heq | hlater := List.mem_cons.mp h
        · cases heq
          exact absurd rfl hkey
        · exact hlater
      rw [get?, if_neg hkey]
      exact ih hlater

/-- The keys ascend, each standing once. -/
def Ascending (entries : Entries) : Prop :=
  entries.Pairwise fun e e' => e.1 < e'.1

theorem lt_of_not_lt {a b : String} (h : ¬a < b) (hne : a ≠ b) : b < a :=
  String.not_le.mp fun hle => hne (String.le_antisymm hle (String.not_lt.mp h))

theorem mem_insert {e : String × Value} {k : String} {v : Value} {entries : Entries}
    (h : e ∈ insert k v entries) : e = (k, v) ∨ e ∈ entries := by
  induction entries with
  | nil => exact .inl (List.mem_singleton.mp h)
  | cons e' entries ih =>
    obtain ⟨k', w⟩ := e'
    simp only [insert] at h
    split at h
    · exact List.mem_cons.mp h
    · split at h
      · obtain heq | hlater := List.mem_cons.mp h
        · exact .inl heq
        · exact .inr (List.mem_cons_of_mem _ hlater)
      · obtain rfl | hlater := List.mem_cons.mp h
        · exact .inr List.mem_cons_self
        · exact (ih hlater).imp_right (List.mem_cons_of_mem _)

theorem Ascending.insert {entries : Entries} (h : Ascending entries) (k : String) (v : Value) :
    Ascending (insert k v entries) := by
  induction entries with
  | nil => exact List.pairwise_singleton _ _
  | cons e entries ih =>
    obtain ⟨k', w⟩ := e
    obtain ⟨hfirst, hrest⟩ := List.pairwise_cons.mp h
    simp only [Entries.insert]
    split
    · rename_i hbefore
      refine List.pairwise_cons.mpr ⟨?_, h⟩
      intro e' he'
      obtain rfl | hlater := List.mem_cons.mp he'
      · exact hbefore
      · exact String.lt_trans hbefore (hfirst e' hlater)
    · split
      · rename_i _ hsame
        subst hsame
        exact List.pairwise_cons.mpr ⟨hfirst, hrest⟩
      · rename_i hnot hother
        refine List.pairwise_cons.mpr ⟨?_, ih hrest⟩
        intro e' he'
        obtain rfl | hlater := mem_insert he'
        · exact lt_of_not_lt hnot hother
        · exact hfirst e' hlater

theorem sorted_ascending (entries : Entries) : Ascending (sorted entries) := by
  unfold sorted
  rw [List.foldl_eq_foldr_reverse]
  induction entries.reverse with
  | nil => exact .nil
  | cons e es ih => exact ih.insert e.1 e.2

theorem Ascending.get?_eq_some_iff {entries : Entries} (h : Ascending entries) {key : String}
    {v : Value} : get? key entries = some v ↔ (key, v) ∈ entries := by
  refine ⟨mem_of_get?, fun hmem => ?_⟩
  induction entries with
  | nil => cases hmem
  | cons e entries ih =>
    obtain ⟨k, w⟩ := e
    obtain ⟨hfirst, hrest⟩ := List.pairwise_cons.mp h
    rw [get?]
    obtain heq | hlater := List.mem_cons.mp hmem
    · cases heq
      exact if_pos rfl
    · have hother : k ≠ key := by
        rintro rfl
        exact String.lt_irrefl k (hfirst (k, v) hlater)
      rw [if_neg hother]
      exact ih hrest hlater

theorem mem_sorted {key : String} {v : Value} {entries : Entries} :
    (key, v) ∈ sorted entries ↔ last? key entries = some v := by
  rw [← (sorted_ascending entries).get?_eq_some_iff, get?_sorted]

/-- One entry is left if all have its key. -/
theorem sorted_eq_singleton_iff {key : String} {v : Value} {entries : Entries} :
    sorted entries = [(key, v)] ↔ last? key entries = some v ∧ ∀ e ∈ entries, e.1 = key := by
  constructor
  · intro h
    refine ⟨mem_sorted.mp (h ▸ List.mem_cons_self), ?_⟩
    intro e he
    obtain ⟨w, hw⟩ := exists_get?_of_mem (List.mem_reverse.mpr he)
    have hmem := mem_sorted.mpr hw
    rw [h] at hmem
    exact congrArg Prod.fst (List.mem_singleton.mp hmem)
  · rintro ⟨hlast, hkeys⟩
    have hall : ∀ e ∈ sorted entries, e = (key, v) := by
      rintro ⟨k, w⟩ he
      have hw := mem_sorted.mp he
      obtain rfl : k = key := hkeys _ (List.mem_reverse.mp (mem_of_get? hw))
      rw [Option.some.inj (hw.symm.trans hlast)]
    have hmem := mem_sorted.mpr hlast
    have hascending := sorted_ascending entries
    -- Two entries would have one key, and keys ascend strictly.
    cases hsorted : sorted entries with
    | nil =>
      rw [hsorted] at hmem
      cases hmem
    | cons e es =>
      rw [hsorted] at hall hascending
      obtain rfl := hall e List.mem_cons_self
      cases es with
      | nil => rfl
      | cons e' es =>
        obtain rfl := hall e' (List.mem_cons_of_mem _ List.mem_cons_self)
        have hlt := (List.pairwise_cons.mp hascending).1 _ List.mem_cons_self
        exact absurd hlt (String.lt_irrefl key)

end DacBank.Document.Entries
