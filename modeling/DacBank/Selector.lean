import DacBank.Error

namespace DacBank

/-- Which modules an operation is for. A list of modules stands for its set. -/
inductive Selector where
  | all
  | modules (list : List Nat)
  deriving DecidableEq

/-- Inserts a module into a sorted list, in front of those that are not smaller. -/
def insertModule (m : Nat) : List Nat → List Nat
  | [] => [m]
  | n :: rest => if m ≤ n then m :: n :: rest else n :: insertModule m rest

def sortModules (modules : List Nat) : List Nat :=
  modules.foldr insertModule []

/-- Keeps one of equal neighbours. -/
def dropRepeats : List Nat → List Nat
  | [] => []
  | [m] => [m]
  | m :: n :: rest => if m = n then dropRepeats (n :: rest) else m :: dropRepeats (n :: rest)

/-- The modules of a list in ascending order, each once. -/
def ascending (modules : List Nat) : List Nat :=
  dropRepeats (sortModules modules)

theorem mem_insertModule {a m : Nat} {l : List Nat} : a ∈ insertModule m l ↔ a = m ∨ a ∈ l := by
  induction l with
  | nil => simp [insertModule]
  | cons n rest ih =>
    simp only [insertModule]
    split
    · exact List.mem_cons
    · simp only [List.mem_cons, ih]
      exact or_left_comm

theorem mem_sortModules {a : Nat} {l : List Nat} : a ∈ sortModules l ↔ a ∈ l := by
  induction l with
  | nil => exact Iff.rfl
  | cons m rest ih => exact mem_insertModule.trans ((or_congr_right ih).trans List.mem_cons.symm)

theorem pairwise_insertModule {l : List Nat} (m : Nat) (h : l.Pairwise (· ≤ ·)) :
    (insertModule m l).Pairwise (· ≤ ·) := by
  induction l with
  | nil => exact List.pairwise_singleton _ m
  | cons n rest ih =>
    obtain ⟨hn, hr⟩ := List.pairwise_cons.mp h
    simp only [insertModule]
    split
    · rename_i hm
      refine List.pairwise_cons.mpr ⟨?_, h⟩
      intro a ha
      rcases List.mem_cons.mp ha with rfl | ha
      · exact hm
      · exact Nat.le_trans hm (hn a ha)
    · rename_i hm
      refine List.pairwise_cons.mpr ⟨?_, ih hr⟩
      intro a ha
      rcases mem_insertModule.mp ha with rfl | ha
      · exact Nat.le_of_not_le hm
      · exact hn a ha

theorem pairwise_sortModules (l : List Nat) : (sortModules l).Pairwise (· ≤ ·) := by
  induction l with
  | nil => exact List.Pairwise.nil
  | cons m rest ih => exact pairwise_insertModule m ih

theorem mem_dropRepeats {a : Nat} {l : List Nat} : a ∈ dropRepeats l ↔ a ∈ l := by
  fun_induction dropRepeats l with
  | case1 => exact Iff.rfl
  | case2 m => exact Iff.rfl
  | case3 n rest ih => simp [ih]
  | case4 m n rest hother ih =>
    exact List.mem_cons.trans ((or_congr_right ih).trans List.mem_cons.symm)

/-- In a sorted list equal modules are neighbours, so no module is left twice. -/
theorem pairwise_dropRepeats {l : List Nat} (h : l.Pairwise (· ≤ ·)) :
    (dropRepeats l).Pairwise (· < ·) := by
  fun_induction dropRepeats l with
  | case1 => exact List.Pairwise.nil
  | case2 m => exact List.pairwise_singleton _ m
  | case3 n rest ih => exact ih (List.pairwise_cons.mp h).2
  | case4 m n rest hother ih =>
    obtain ⟨hm, hrest⟩ := List.pairwise_cons.mp h
    refine List.pairwise_cons.mpr ⟨?_, ih hrest⟩
    intro a ha
    have hlt : m < n := Nat.lt_of_le_of_ne (hm n List.mem_cons_self) hother
    rcases List.mem_cons.mp (mem_dropRepeats.mp ha) with rfl | ha
    · exact hlt
    · exact Nat.lt_of_lt_of_le hlt ((List.pairwise_cons.mp hrest).1 a ha)

/-- Sorting keeps the set of modules. -/
theorem mem_ascending {a : Nat} {l : List Nat} : a ∈ ascending l ↔ a ∈ l :=
  mem_dropRepeats.trans mem_sortModules

theorem pairwise_ascending (l : List Nat) : (ascending l).Pairwise (· < ·) :=
  pairwise_dropRepeats (pairwise_sortModules l)

namespace Selector

/-- The selected modules of a detector in ascending order, or the least one that it lacks. -/
def resolve (count : Nat) : Selector → Except DacError (List Nat)
  | .all => .ok (List.range count)
  | .modules list =>
    match (ascending list).find? (count ≤ ·) with
    | some m => .error (.moduleOutOfRange m count)
    | none => .ok (ascending list)

def inspect : Selector → String
  | .all => "All"
  | .modules list => "Modules(" ++ Text.natList list ++ ")"

end Selector

end DacBank
