import DacBank.Bank
import DacBank.Proofs.Matrix
import DacBank.Proofs.Program.Ending
import DacBank.Proofs.Program.Recorded
import Mathlib.Data.List.Range

namespace DacBank.Bank

open Program Exchange

/-- An import without the report at its end. -/
def importRows (b : Bank) (rows : List (List Int32)) : Program Channel Unit := do
  b.checkRowCount rows.length
  writeRows 0 (b.dacs.zip rows)

theorem fromRows_eq_importRows (b : Bank) (rows : List (List Int32)) :
    b.fromRows rows =
      b.importRows rows >>= fun _ => Program.report (.imported .rows b.dacs.length) := by
  simp only [fromRows, importRows, LawfulMonad.bind_assoc]

/-- By induction on the DACs: the row at the place of a DAC is the next one of the list. -/
theorem writeMatrixRows_eq_writeRows (m : Matrix) (i : Nat) (dacs : List Dac) :
    writeMatrixRows m i dacs =
      writeRows i (dacs.zip ((List.range' i dacs.length).map m.row)) := by
  induction dacs generalizing i with
  | nil => rfl
  | cons d rest ih =>
    rw [List.length_cons, List.range'_succ, List.map_cons, List.zip_cons_cons]
    exact congrArg (writeRow i d (m.row i) >>= ·) (funext fun _ => ih (i + 1))

theorem fromMatrix_eq_importRows (b : Bank) (m : Matrix) :
    b.fromMatrix m =
      b.importRows m.toRows >>= fun _ => Program.report (.imported .matrix b.dacs.length) := by
  simp only [fromMatrix, importRows, LawfulMonad.bind_assoc, Matrix.length_toRows]
  by_cases hrows : m.rows = b.dacs.length
  · rw [writeMatrixRows_eq_writeRows, ← hrows, ← List.range_eq_range', Matrix.toRows]
  · -- Without the right number of rows neither loop is reached.
    rw [checkRowCount, if_neg hrows]
    rfl

/-- However the detector answers, the import of a matrix and that of the list of its rows ask the
same of the detector in the same order, end alike and leave it in the same state. If they fail,
their records are the same; if not, the records are the same up to the report at the end, which
differs in its sentence only. -/
theorem fromMatrix_agrees_fromRows {σ : Type} (h : Detector Channel σ) (b : Bank) (m : Matrix)
    (s : σ) :
    let x := (b.fromMatrix m).run h s
    let y := (b.fromRows m.toRows).run h s
    let last := fun source => Event.imported source b.dacs.length
    x.result = y.result ∧ x.state = y.state ∧ calls x.record = calls y.record ∧
      (last .matrix).level = (last .rows).level ∧ (last .matrix).fields = (last .rows).fields ∧
      match x.result with
      | .ok () => ∃ t, x.record = t ++ [.reported (last .matrix)] ∧
          y.record = t ++ [.reported (last .rows)]
      | .error _ => x.record = y.record := by
  intro x y last
  let o := (b.importRows m.toRows).run h s
  cases ho : o.result with
  | ok =>
    have hx : x = ⟨.ok (), o.record ++ [.reported (last .matrix)], o.state⟩ :=
      (congrArg (·.run h s) (b.fromMatrix_eq_importRows m)).trans (run_bind_ok ho)
    have hy : y = ⟨.ok (), o.record ++ [.reported (last .rows)], o.state⟩ :=
      (congrArg (·.run h s) (b.fromRows_eq_importRows m.toRows)).trans (run_bind_ok ho)
    rw [hx, hy]
    exact ⟨rfl, rfl, by simp, rfl, rfl, o.record, rfl, rfl⟩
  | error e =>
    have hx : x = ⟨.error e, o.record, o.state⟩ :=
      (congrArg (·.run h s) (b.fromMatrix_eq_importRows m)).trans (run_bind_error ho)
    have hy : y = ⟨.error e, o.record, o.state⟩ :=
      (congrArg (·.run h s) (b.fromRows_eq_importRows m.toRows)).trans (run_bind_error ho)
    rw [hx, hy]
    exact ⟨rfl, rfl, rfl, rfl, rfl, rfl⟩

end DacBank.Bank
