import DacBank.Selector
import Mathlib.Data.List.Sort

namespace DacBank

theorem eq_ascending {modules list : List Nat} (sorted : modules.Pairwise (· < ·))
    (members : ∀ m, m ∈ modules ↔ m ∈ list) : modules = ascending list := by
  apply sorted.eq_of_mem_iff (pairwise_ascending list)
  intro m
  rw [members, mem_ascending]

theorem ascending_congr {list other : List Nat} (same : ∀ m, m ∈ list ↔ m ∈ other) :
    ascending list = ascending other := by
  apply eq_ascending (pairwise_ascending list)
  intro m
  rw [mem_ascending, same]

/-- In an ascending list the first module from a bound on is the least one. -/
theorem find?_eq_some_iff_least {modules : List Nat} (sorted : modules.Pairwise (· < ·))
    (bound m : Nat) :
    modules.find? (bound ≤ ·) = some m ↔
      m ∈ modules ∧ bound ≤ m ∧ ∀ k ∈ modules, bound ≤ k → m ≤ k := by
  induction modules with
  | nil => simp
  | cons n rest ih =>
    obtain ⟨before, sortedRest⟩ := List.pairwise_cons.mp sorted
    by_cases hn : bound ≤ n
    · simp only [List.find?_cons, hn, decide_true, Option.some.injEq]
      constructor
      · rintro rfl
        refine ⟨List.mem_cons_self, hn, ?_⟩
        intro k hk _
        rcases List.mem_cons.mp hk with rfl | hk
        · exact Nat.le_refl _
        · exact Nat.le_of_lt (before k hk)
      · rintro ⟨hm, _, least⟩
        have hle : m ≤ n := least n List.mem_cons_self hn
        rcases List.mem_cons.mp hm with rfl | hm
        · rfl
        · exact absurd (before m hm) (Nat.not_lt.mpr hle)
    · simp only [List.find?_cons, hn, decide_false, ih sortedRest]
      constructor
      · rintro ⟨hm, hbound, least⟩
        refine ⟨List.mem_cons_of_mem n hm, hbound, ?_⟩
        intro k hk hk'
        rcases List.mem_cons.mp hk with rfl | hk
        · exact absurd hk' hn
        · exact least k hk hk'
      · rintro ⟨hm, hbound, least⟩
        refine ⟨?_, hbound, fun k hk => least k (List.mem_cons_of_mem n hk)⟩
        rcases List.mem_cons.mp hm with rfl | hm
        · exact absurd hbound hn
        · exact hm

namespace Selector

variable {list other chosen : List Nat} {count m : Nat}

theorem resolve_of_below (below : ∀ m ∈ list, m < count) :
    (modules list).resolve count = .ok (ascending list) := by
  have hnone : (ascending list).find? (count ≤ ·) = none := by
    rw [List.find?_eq_none]
    intro m hm
    simpa using below m (mem_ascending.mp hm)
  simp only [resolve, hnone]

theorem resolve_of_least (hm : m ∈ list) (lacking : count ≤ m)
    (least : ∀ k ∈ list, count ≤ k → m ≤ k) :
    (modules list).resolve count = .error (.moduleOutOfRange m count) := by
  have hsome : (ascending list).find? (count ≤ ·) = some m := by
    rw [find?_eq_some_iff_least (pairwise_ascending list)]
    exact ⟨mem_ascending.mpr hm, lacking, fun k hk => least k (mem_ascending.mp hk)⟩
  simp only [resolve, hsome]

/-- Either the detector has all the listed modules, or there is a least one that it lacks. -/
theorem below_or_least (list : List Nat) (count : Nat) :
    (∀ m ∈ list, m < count) ∨
      ∃ m ∈ list, count ≤ m ∧ ∀ k ∈ list, count ≤ k → m ≤ k := by
  cases hfind : (ascending list).find? (count ≤ ·) with
  | none =>
    left
    intro m hm
    simpa using List.find?_eq_none.mp hfind m (mem_ascending.mpr hm)
  | some m =>
    right
    rw [find?_eq_some_iff_least (pairwise_ascending list)] at hfind
    obtain ⟨hm, lacking, least⟩ := hfind
    exact ⟨m, mem_ascending.mp hm, lacking, fun k hk => least k (mem_ascending.mpr hk)⟩

theorem resolve_ok_iff : (modules list).resolve count = .ok chosen ↔
    (∀ m ∈ list, m < count) ∧ chosen.Pairwise (· < ·) ∧ ∀ m, m ∈ chosen ↔ m ∈ list := by
  constructor
  · intro h
    rcases below_or_least list count with below | ⟨m, hm, lacking, least⟩
    · rw [resolve_of_below below] at h
      cases h
      exact ⟨below, pairwise_ascending list, fun m => mem_ascending⟩
    · rw [resolve_of_least hm lacking least] at h
      cases h
  · rintro ⟨below, sorted, members⟩
    rw [resolve_of_below below, eq_ascending sorted members]

theorem resolve_error_iff {e : DacError} : (modules list).resolve count = .error e ↔
    ∃ m ∈ list, count ≤ m ∧ (∀ k ∈ list, count ≤ k → m ≤ k) ∧ e = .moduleOutOfRange m count := by
  constructor
  · intro h
    rcases below_or_least list count with below | ⟨m, hm, lacking, least⟩
    · rw [resolve_of_below below] at h
      cases h
    · rw [resolve_of_least hm lacking least] at h
      cases h
      exact ⟨m, hm, lacking, least, rfl⟩
  · rintro ⟨m, hm, lacking, least, rfl⟩
    exact resolve_of_least hm lacking least

theorem resolve_congr (same : ∀ m, m ∈ list ↔ m ∈ other) :
    (modules list).resolve count = (modules other).resolve count := by
  simp only [resolve, ascending_congr same]

theorem resolve_resolved (h : (modules list).resolve count = .ok chosen) :
    (modules chosen).resolve count = .ok chosen := by
  obtain ⟨_, _, members⟩ := resolve_ok_iff.mp h
  rw [resolve_congr members, h]

theorem resolve_eq_all_iff :
    (modules list).resolve count = all.resolve count ↔ ∀ m, m ∈ list ↔ m < count := by
  rw [resolve, resolve_ok_iff]
  simp only [List.mem_range]
  constructor
  · rintro ⟨_, _, members⟩ m
    exact (members m).symm
  · intro covers
    exact ⟨fun m => (covers m).mp, List.pairwise_lt_range, fun m => (covers m).symm⟩

/-- A list of modules is resolved to its set: to the members in order if the detector has them all,
and else to the least one that it lacks. So order and repetitions do not matter, a resolved list
stays as it is, and a list stands for all modules if it names just these. -/
theorem resolve_depends_on_members (list : List Nat) (count : Nat) :
    ((∃ chosen, (modules list).resolve count = .ok chosen) ↔ ∀ m ∈ list, m < count) ∧
      (∀ chosen, (modules list).resolve count = .ok chosen ↔
        (∀ m ∈ list, m < count) ∧ chosen.Pairwise (· < ·) ∧ ∀ m, m ∈ chosen ↔ m ∈ list) ∧
      (∀ e, (modules list).resolve count = .error e ↔
        ∃ m ∈ list, count ≤ m ∧ (∀ k ∈ list, count ≤ k → m ≤ k) ∧
          e = .moduleOutOfRange m count) ∧
      (∀ other, (∀ m, m ∈ other ↔ m ∈ list) →
        (modules other).resolve count = (modules list).resolve count) ∧
      (∀ chosen, (modules list).resolve count = .ok chosen →
        (modules chosen).resolve count = .ok chosen) ∧
      ((modules list).resolve count = all.resolve count ↔ ∀ m, m ∈ list ↔ m < count) := by
  refine ⟨?_, fun _ => resolve_ok_iff, fun _ => resolve_error_iff, fun _ => resolve_congr,
    fun _ => resolve_resolved, resolve_eq_all_iff⟩
  constructor
  · rintro ⟨chosen, h⟩
    exact (resolve_ok_iff.mp h).1
  · intro below
    exact ⟨_, resolve_of_below below⟩

/-- Out of order and with repetitions, once for all modules and once with two that are lacking. -/
theorem resolve_depends_on_members_unordered :
    (modules [2, 0, 1, 2]).resolve 3 = all.resolve 3 ∧
      (modules [0, 1, 2]).resolve 3 = .ok [0, 1, 2] ∧
      (modules [9, 1, 7, 9]).resolve 3 = .error (.moduleOutOfRange 7 3) := by
  obtain ⟨_, hok, _, _, hagain, hall⟩ := resolve_depends_on_members [2, 0, 1, 2] 3
  obtain ⟨_, _, herror, _⟩ := resolve_depends_on_members [9, 1, 7, 9] 3
  have hresolved : (modules [2, 0, 1, 2]).resolve 3 = .ok [0, 1, 2] := by
    rw [hok]
    refine ⟨by decide, by decide, fun m => ?_⟩
    simp only [List.mem_cons, List.not_mem_nil, or_false]
    omega
  refine ⟨?_, hagain _ hresolved, ?_⟩
  · rw [hall]
    intro m
    simp only [List.mem_cons, List.not_mem_nil, or_false]
    omega
  · rw [herror]
    exact ⟨7, by decide, by decide, by decide, rfl⟩

end Selector

end DacBank
