import DacBank.Proofs.Bank.Simulated
import DacBank.Proofs.Simulator.Reach

namespace DacBank

namespace Simulator

/-- How many of some cells can be written, row after row: all of them, as many as there are writes
left, or those in front of the failing module, whichever is least. -/
def cellsReached (s : Simulator) (cells : Nat) : Nat :=
  min (s.affordable cells) ((s.failing.filter (· < s.modules)).getD cells)

section
variable {s : Simulator} {n f : Nat}

theorem cellsReached_le_affordable (s : Simulator) (n : Nat) :
    s.cellsReached n ≤ s.affordable n :=
  Nat.min_le_left ..

theorem cellsReached_le (s : Simulator) (n : Nat) : s.cellsReached n ≤ n :=
  (s.cellsReached_le_affordable n).trans (s.affordable_le n)

theorem affords_cellsReached (s : Simulator) (n : Nat) : s.Affords (s.cellsReached n) :=
  fun left hleft =>
    (s.cellsReached_le_affordable n).trans (s.affords_affordable n left hleft)

theorem cellsReached_le_failing (failing : s.failing = some f) (below : f < s.modules) :
    s.cellsReached n ≤ f := by
  have hmin : s.cellsReached n ≤ (s.failing.filter (· < s.modules)).getD n := Nat.min_le_right ..
  simpa [failing, below, Option.filter] using hmin

/-- Short of the last cell there is a reason to stop. -/
theorem cellsReached_cases (short : s.cellsReached n < n) :
    s.budget = some (s.cellsReached n) ∨
      ∃ f < s.modules, s.failing = some f ∧ s.cellsReached n = f := by
  by_cases hf : ∃ f < s.modules, s.failing = some f
  · obtain ⟨f, below, failing⟩ := hf
    have hreached : s.cellsReached n = min (s.affordable n) f := by
      simp [cellsReached, failing, below, Option.filter]
    by_cases hfirst : s.cellsReached n = f
    · exact .inr ⟨f, below, failing, hfirst⟩
    · have hall : s.cellsReached n = s.affordable n := by omega
      rw [hall] at short ⊢
      exact .inl (budget_of_affordable_lt short)
  · have hnone : s.failing.filter (· < s.modules) = none := by
      cases failing : s.failing with
      | none => rfl
      | some f =>
        have hbeyond : ¬ f < s.modules := fun below => hf ⟨f, below, failing⟩
        simp [Option.filter, hbeyond]
    have hall : s.cellsReached n = s.affordable n := by
      rw [cellsReached, hnone, Option.getD_none]
      exact Nat.min_eq_left (s.affordable_le n)
    rw [hall] at short ⊢
    exact .inl (budget_of_affordable_lt short)

end

end Simulator

namespace Bank

open Simulator

/-- By induction on the rows: the cells of a row stand at the places of its modules. -/
theorem modules_cell {rows : List (Dac × List Int32)} {n p : Nat} {w : WriteCall Channel}
    (fit : ∀ x ∈ rows, x.2.length = n) (hw : (cells rows)[p]? = some w) : w.modules = [p % n] := by
  induction rows generalizing p with
  | nil => cases hw
  | cons x rows ih =>
    obtain ⟨hx, hrows⟩ := List.forall_mem_cons.mp fit
    have hlength : (rowCells x.1 x.2).length = n := by rw [rowCells, List.length_mapIdx, hx]
    have hcells : cells (x :: rows) = rowCells x.1 x.2 ++ cells rows := rfl
    rw [hcells] at hw
    by_cases hp : p < n
    · rw [List.getElem?_append_left (hlength ▸ hp), rowCells, List.getElem?_mapIdx,
        Option.map_eq_some_iff] at hw
      obtain ⟨value, _, rfl⟩ := hw
      rw [Nat.mod_eq_of_lt hp]
    · have hle : n ≤ p := Nat.le_of_not_lt hp
      rw [List.getElem?_append_right (hlength ▸ hle), hlength] at hw
      rw [ih hrows hw, ← Nat.mod_eq_sub_mod hle]

/-- There is a row for each DAC and a value for each module, and the detector takes all registers. -/
structure Suits (s : Simulator) (b : Bank) (rows : List (List Int32)) : Prop where
  count : rows.length = b.dacs.length
  fit : ∀ row ∈ rows, row.length = s.modules
  known : ∀ d ∈ b.dacs, s.checkRegister d.register = .ok ()

namespace Suits

variable {b : Bank} {rows : List (List Int32)} {s : Simulator} {p : Nat} {w : WriteCall Channel}

theorem fit_zip (h : Suits s b rows) : ∀ x ∈ b.dacs.zip rows, x.2.length = s.modules :=
  fun x hx => h.fit x.2 (List.of_mem_zip hx).2

theorem length_cells (h : Suits s b rows) :
    (cells (b.dacs.zip rows)).length = b.dacs.length * s.modules := by
  rw [Bank.length_cells h.fit_zip, List.length_zip, h.count, Nat.min_self]

theorem below (h : Suits s b rows) (hw : (cells (b.dacs.zip rows))[p]? = some w) :
    p % s.modules < s.modules := by
  obtain ⟨x, hx, m, hm, rfl⟩ := mem_cells.mp (List.mem_of_getElem? hw)
  obtain rfl := List.singleton_inj.mp (modules_cell h.fit_zip hw)
  exact h.fit_zip x hx ▸ hm

theorem takes (h : Suits s b rows) (hw : (cells (b.dacs.zip rows))[p]? = some w)
    (sound : s.failing ≠ some (p % s.modules)) : s.Takes w := by
  have hmodules := modules_cell h.fit_zip hw
  have hbelow := h.below hw
  obtain ⟨x, hx, m, hm, rfl⟩ := mem_cells.mp (List.mem_of_getElem? hw)
  refine ⟨?_, h.known x.1 (List.of_mem_zip hx).1, _, rfl⟩
  rw [hmodules]
  exact checkModules_ok_iff.mpr (by simpa using ⟨hbelow, sound⟩)

theorem refuses (h : Suits s b rows) (hw : (cells (b.dacs.zip rows))[p]? = some w)
    (failing : s.failing = some (p % s.modules)) (made : Nat) :
    s.Refuses made w (.module (p % s.modules) "simulated communication failure") := by
  have hbelow := h.below hw
  have hcheck := checkModules_failing failing (List.mem_singleton_self _) (by simpa using hbelow)
  refine .check ?_
  rw [screen, modules_cell h.fit_zip hw, hcheck]
  rfl

theorem progress (h : Suits s b rows) :
    Property.Progress (cells (b.dacs.zip rows)) ((b.importRows rows).run detector s).record
      ((b.importRows rows).run detector s).result := by
  have hresult := congrArg Prod.fst (importRows_carries h.count h.fit)
  have hrec := Program.run_recorded detector (b.importRows rows) s
  change ((b.importRows rows).run detector s).result = _ at hresult
  rw [importRows, checkRowCount, if_pos h.count] at hrec hresult ⊢
  obtain ⟨_, hend⟩ := writeRows_recorded hrec
  generalize hr : (Program.run detector _ s).result = r at hend hresult ⊢
  cases hend with
  | carried progress counted => exact progress
  | misfit found told differs issued =>
    -- On this detector a row that fits is not refused before its writes.
    cases hall : (s.writeAll (cells (b.dacs.zip rows))).1 <;> rw [hall] at hresult <;> cases hresult

/-- The cells in front of the place where an import stops are all taken. -/
theorem reaches (h : Suits s b rows) {k : Nat} {e : DetectorError}
    (hk : k = s.cellsReached (b.dacs.length * s.modules))
    (next : ∀ w, (cells (b.dacs.zip rows))[k]? = some w → s.Refuses k w e) :
    s.Reaches (cells (b.dacs.zip rows)) k e ((b.importRows rows).run detector s) := by
  have hraw : ∀ w ∈ cells (b.dacs.zip rows), w.channel.unit = .raw := by
    intro w hw
    obtain ⟨x, _, m, _, rfl⟩ := mem_cells.mp hw
    rfl
  refine (importRows_carries h.count h.fit).reaches h.progress hraw ?_ ?_ ?_ next
  · rw [h.length_cells, hk]
    exact cellsReached_le s _
  · intro w hw
    obtain ⟨p, hp⟩ := List.mem_iff_getElem?.mp hw
    have hpk : p < k := by
      by_contra hle
      rw [List.getElem?_take_eq_none (Nat.le_of_not_lt hle)] at hp
      cases hp
    rw [List.getElem?_take_of_lt hpk] at hp
    refine h.takes hp ?_
    intro failing
    have hle : k ≤ p % s.modules := hk ▸ cellsReached_le_failing failing (h.below hp)
    have hmod := Nat.mod_le p s.modules
    omega
  · exact hk ▸ affords_cellsReached s _

theorem stops_for (h : Suits s b rows) {k : Nat}
    (hk : k = s.cellsReached (b.dacs.length * s.modules))
    (hw : (cells (b.dacs.zip rows))[k]? = some w) :
    s.budget = some k ∨ s.failing = some k ∧ k < s.modules := by
  obtain ⟨hlt, _⟩ := List.getElem?_eq_some_iff.mp hw
  rw [h.length_cells] at hlt
  rw [hk] at hlt ⊢
  rcases cellsReached_cases hlt with left | ⟨f, below, failing, hf⟩
  · exact .inl left
  · rw [hf]
    exact .inr ⟨failing, below⟩

/-- The writes suffice to come to the failing module, and there the import ends. -/
theorem reaches_failing (h : Suits s b rows) {f : Nat} (failing : s.failing = some f)
    (below : f < s.modules) (affords : s.Affords f) :
    s.Reaches (cells (b.dacs.zip rows)) (s.cellsReached (b.dacs.length * s.modules))
      (.module f "simulated communication failure") ((b.importRows rows).run detector s) := by
  refine h.reaches rfl ?_
  intro w hw
  generalize hk : s.cellsReached (b.dacs.length * s.modules) = k at hw ⊢
  have hkf : k = f := by
    rcases h.stops_for hk.symm hw with left | ⟨failing', _⟩
    · exact Nat.le_antisymm (hk ▸ cellsReached_le_failing failing below) (affords k left)
    · exact Option.some.inj (failing'.symm.trans failing)
  subst hkf
  have hmod : k % s.modules = k := Nat.mod_eq_of_lt below
  have hrefused := h.refuses hw (hmod.symm ▸ failing) k
  rwa [hmod] at hrefused

/-- Without a failing module, or with too few writes to come to it, only the budget can end the
import. -/
theorem reaches_spent (h : Suits s b rows)
    (early : ∀ f < s.modules, s.failing = some f → ¬ s.Affords f) :
    s.Reaches (cells (b.dacs.zip rows)) (s.cellsReached (b.dacs.length * s.modules)) .timeout
      ((b.importRows rows).run detector s) := by
  refine h.reaches rfl ?_
  intro w hw
  generalize hk : s.cellsReached (b.dacs.length * s.modules) = k at hw ⊢
  have hleft : s.budget = some k := by
    rcases h.stops_for hk.symm hw with left | ⟨failing, below⟩
    · exact left
    · exact absurd (hk ▸ affords_cellsReached s _) (early k below failing)
  refine .spent (h.takes hw ?_) hleft
  intro failing
  refine early _ (h.below hw) failing ?_
  intro left hleft'
  obtain rfl : k = left := Option.some.inj (hleft.symm.trans hleft')
  exact Nat.mod_le k s.modules

end Suits

/-- An import of fitting rows writes the first cells row after row: as many as there are, or as there
are writes left, or as there are in front of the failing module. If these are not all cells, it fails
with the error of the failing module if the writes suffice to come to it, and for want of writes if
not. Apart from the cells only the counter of writes and the budget change. An import of the matrix
of the same rows does the same. -/
theorem import_writes_first_cells {b : Bank} {rows : List (List Int32)} {s : Simulator}
    (h : Suits s b rows) :
    let wanted := cells (b.dacs.zip rows)
    let k := s.cellsReached (b.dacs.length * s.modules)
    wanted.length = b.dacs.length * s.modules ∧
      ∀ p ∈ [b.fromRows rows, b.fromMatrix (Matrix.ofRows s.modules rows)],
        (∀ f < s.modules, s.failing = some f → s.Affords f →
          s.Reaches wanted k (.module f "simulated communication failure") (p.run detector s)) ∧
        ((∀ f < s.modules, s.failing = some f → ¬ s.Affords f) →
          s.Reaches wanted k .timeout (p.run detector s)) := by
  intro wanted k
  refine ⟨h.length_cells, ?_⟩
  intro p hp
  obtain ⟨source, rfl⟩ : ∃ source, p =
      b.importRows rows >>= fun _ => Program.report (.imported source b.dacs.length) := by
    rcases List.mem_cons.mp hp with rfl | hp
    · exact ⟨.rows, b.fromRows_eq_importRows rows⟩
    · obtain rfl := List.mem_singleton.mp hp
      refine ⟨.matrix, ?_⟩
      rw [fromMatrix_eq_importRows, Matrix.toRows_ofRows h.fit]
  constructor
  · intro f below failing affords
    exact (h.reaches_failing failing below affords).then_report _
  · intro early
    exact (h.reaches_spent early).then_report _

/-- The first and the third DAC share a register. With five writes the import ends in the last row,
and with a failing module besides in the first one. -/
theorem import_writes_first_cells_shared :
    let b : Bank := .ofDistinct [⟨"vth1", ⟨0⟩, 0, 4000, 1200⟩, ⟨"vth2", ⟨1⟩, 0, 4000, 1000⟩,
      ⟨"vth3", ⟨0⟩, 0, 4000, 1000⟩] (by decide)
    let rows : List (List Int32) := [[1, 2], [3, 4], [5, 6]]
    let few := (Simulator.ofModules 2).failAfterWrites (some 5)
    let broken := few.failModule (some 1)
    let x := (b.fromRows rows).run detector few
    let y := (b.fromMatrix (Matrix.ofRows 2 rows)).run detector broken
    Suits few b rows ∧ x.result = .error (.communication .timeout) ∧
      x.state.values ⟨0⟩ = [5, 2] ∧ x.state.values ⟨1⟩ = [3, 4] ∧ x.state.budget = some 0 ∧
      Suits broken b rows ∧ broken.failing = some 1 ∧ broken.Affords 1 ∧
      y.result = .error (.communication (.module 1 "simulated communication failure")) ∧
      y.state.values ⟨0⟩ = [1, 0] ∧ y.state.values ⟨1⟩ = [0, 0] ∧ y.state.budget = some 4 := by
  intro b rows few broken x y
  have suits : Suits few b rows := ⟨rfl, by decide, fun _ _ => rfl⟩
  have suits' : Suits broken b rows := ⟨rfl, by decide, fun _ _ => rfl⟩
  have affords : broken.Affords 1 := by
    intro left hleft
    cases hleft
    decide
  obtain ⟨_, hfew⟩ := import_writes_first_cells suits
  obtain ⟨_, hbroken⟩ := import_writes_first_cells suits'
  have hx := (hfew _ List.mem_cons_self).2 nofun
  have hy := (hbroken _ (List.mem_cons_of_mem _ (List.mem_singleton_self _))).1 1 (by decide) rfl
    affords
  exact ⟨suits, hx.result, hx.values ⟨0⟩, hx.values ⟨1⟩, congrArg Simulator.budget hx.state, suits',
    rfl, affords, hy.result, hy.values ⟨0⟩, hy.values ⟨1⟩, congrArg Simulator.budget hy.state⟩

end Bank

end DacBank
