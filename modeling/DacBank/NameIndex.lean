namespace DacBank

/-- The place of each name in a list. Of two entries of a name the front one counts. -/
abbrev NameIndex : Type :=
  List (String × Nat)

namespace NameIndex

def contains (index : NameIndex) (name : String) : Bool :=
  (index.lookup name).isSome

def insert (index : NameIndex) (name : String) (place : Nat) : NameIndex :=
  (name, place) :: index

theorem lookup_insert (index : NameIndex) (name key : String) (place : Nat) :
    (index.insert name place).lookup key = if key = name then some place else index.lookup key := by
  rw [insert, List.lookup_cons]
  by_cases hkey : key = name
  · simp [hkey]
  · simp [hkey, beq_eq_false_iff_ne.mpr hkey]

theorem contains_eq_false_iff {index : NameIndex} {name : String} :
    index.contains name = false ↔ index.lookup name = none := by
  simp [contains]

/-- The index is in step with a list of names: it tells the places where these stand, and no
others. -/
def Tells (index : NameIndex) (names : List String) : Prop :=
  ∀ name i, index.lookup name = some i ↔ names[i]? = some name

namespace Tells

variable {index : NameIndex} {names : List String} {name : String}

theorem nil : Tells [] [] := by
  simp [Tells]

theorem lt_length (h : index.Tells names) {i : Nat} (hi : index.lookup name = some i) :
    i < names.length := by
  obtain ⟨hlt, _⟩ := List.getElem?_eq_some_iff.mp ((h name i).mp hi)
  exact hlt

theorem contains_iff (h : index.Tells names) : index.contains name = true ↔ name ∈ names := by
  rw [contains, Option.isSome_iff_exists, List.mem_iff_getElem?]
  exact exists_congr fun i => h name i

theorem getElem?_concat_iff {key : String} {i : Nat} : (names ++ [name])[i]? = some key ↔
    names[i]? = some key ∨ i = names.length ∧ name = key := by
  rw [List.getElem?_append]
  split
  · rename_i hlt
    simp [Nat.ne_of_lt hlt]
  · rename_i hge
    rw [List.getElem?_eq_none (Nat.le_of_not_lt hge), List.getElem?_singleton]
    have hplace : i - names.length = 0 ↔ i = names.length := by omega
    simp [hplace]

/-- A name that the index does not tell takes the place behind the others. -/
theorem insert (h : index.Tells names) (hnew : index.contains name = false) :
    (index.insert name names.length).Tells (names ++ [name]) := by
  intro key i
  have hfresh : names[i]? ≠ some name := by
    intro hi
    rw [← h name i, contains_eq_false_iff.mp hnew] at hi
    cases hi
  rw [lookup_insert, getElem?_concat_iff]
  split
  · rename_i hkey
    subst hkey
    simp [hfresh, eq_comm]
  · rename_i hkey
    rw [h key i]
    simp [Ne.symm hkey]

/-- Distinct names, each put in behind those before it. -/
theorem extend (h : index.Tells names) {more : List String} (distinct : (names ++ more).Nodup) :
    Tells ((more.zipIdx names.length).reverse ++ index) (names ++ more) := by
  induction more generalizing index names with
  | nil => simpa using h
  | cons name more ih =>
    have hnew : index.contains name = false := by
      rw [Bool.eq_false_iff, ne_eq, h.contains_iff]
      intro hmem
      exact (List.nodup_append.mp distinct).2.2 name hmem name List.mem_cons_self rfl
    have hall := ih (h.insert hnew) (by simpa using distinct)
    simpa [NameIndex.insert] using hall

end Tells

end NameIndex

end DacBank
