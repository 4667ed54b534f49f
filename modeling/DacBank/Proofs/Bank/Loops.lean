import DacBank.Bank

namespace DacBank.Bank

/-- Reads the row of one DAC, which has to have `cols` values. -/
def readRow (cols i : Nat) (d : Dac) : Program Channel (List Int32) := do
  let row ← d.get
  if row.length ≠ cols then
    .fail (.shapeMismatch (.row i d.name) cols row.length)
  else
    return row

theorem readRows_cons (cols i : Nat) (d : Dac) (rest : List Dac) :
    readRows cols i (d :: rest) =
      readRow cols i d >>= fun row => (row :: ·) <$> readRows cols (i + 1) rest := by
  simp only [readRow, bind_assoc]
  refine congrArg (d.get >>= ·) (funext fun row => ?_)
  split <;> rfl

theorem readRows_eq_mapM (cols i : Nat) (dacs : List Dac) :
    readRows cols i dacs = (dacs.zipIdx i).mapM fun x => readRow cols x.2 x.1 := by
  induction dacs generalizing i with
  | nil => rfl
  | cons d rest ih =>
    rw [readRows_cons, List.zipIdx_cons, List.mapM_cons, ih]
    simp only [map_eq_pure_bind]

theorem writeRows_eq_forM (i : Nat) (rows : List (Dac × List Int32)) :
    writeRows i rows = forM (rows.zipIdx i) fun x => writeRow x.2 x.1.1 x.1.2 := by
  induction rows generalizing i with
  | nil => rfl
  | cons x rest ih => exact congrArg (writeRow i x.1 x.2 >>= ·) (funext fun _ => ih (i + 1))

theorem writeMatrixRows_eq_forM (m : Matrix) (i : Nat) (dacs : List Dac) :
    writeMatrixRows m i dacs = forM (dacs.zipIdx i) fun x => writeRow x.2 x.1 (m.row x.2) := by
  induction dacs generalizing i with
  | nil => rfl
  | cons d rest ih => exact congrArg (writeRow i d (m.row i) >>= ·) (funext fun _ => ih (i + 1))

theorem resetEach_eq_forM (dacs : List Dac) :
    resetEach dacs = forM dacs fun d => d.reset.reportFailure (.resetAborted d.name) := by
  induction dacs with
  | nil => rfl
  | cons d rest ih =>
    exact congrArg (d.reset.reportFailure (.resetAborted d.name) >>= ·) (funext fun _ => ih)

theorem renderEach_eq_mapM (dacs : List Dac) : renderEach dacs = dacs.mapM Dac.render := by
  induction dacs with
  | nil => rfl
  | cons d rest ih =>
    rw [List.mapM_cons, ← ih]
    rfl

end DacBank.Bank
