import DacBank.Proofs.Bank.Import
import DacBank.Proofs.Bank.ImportSource
import DacBank.Proofs.Bank.Loops
import DacBank.Proofs.Dac.Simulated
import DacBank.Proofs.Matrix

namespace DacBank.Bank

open Program Simulator

variable {s : Simulator}

theorem readRow_yields (i : Nat) (d : Dac) (s : Simulator) :
    s.Yields (readRow s.modules i d) (s.reading d.register) := by
  rw [← bind_pure (s.reading d.register)]
  refine (d.get_yields s).bind fun row hrow more => ?_
  rw [if_neg (by simp [length_of_reading hrow])]
  exact .done _ row

/-- By induction on the DACs: a read changes nothing that the next one sees. -/
theorem readRows_yields (i : Nat) (dacs : List Dac) (s : Simulator) :
    s.Yields (readRows s.modules i dacs) (dacs.mapM fun d => s.reading d.register) := by
  induction dacs generalizing i s with
  | nil => exact .done s []
  | cons d rest ih =>
    rw [readRows_cons, List.mapM_cons]
    refine (readRow_yields i d s).bind fun row _ more => ?_
    have hrest := ih (i + 1) (s.afterReads more)
    simp only [modules_afterReads, reading_afterReads] at hrest
    rw [map_eq_pure_bind]
    exact hrest.bind fun rows _ _ => .done _ (row :: rows)

theorem readings_ok_iff {dacs : List Dac} {rows : List (List Int32)} :
    (dacs.mapM fun d => s.reading d.register) = .ok rows ↔
      (∀ d ∈ dacs, s.Answers d.register) ∧ rows = dacs.map fun d => s.values d.register :=
  mapM_ok_iff fun _ _ => reading_ok_iff

theorem length_of_mem_values {dacs : List Dac} {row : List Int32}
    (h : row ∈ dacs.map fun d => s.values d.register) : row.length = s.modules := by
  obtain ⟨d, _, rfl⟩ := List.mem_map.mp h
  simp [values]

theorem toRows_yields (b : Bank) (s : Simulator) :
    s.Yields b.toRows (b.dacs.mapM fun d => s.reading d.register) :=
  readRows_yields 0 b.dacs s

theorem toMatrix_yields (b : Bank) (s : Simulator) :
    s.Yields b.toMatrix
      (b.dacs.mapM (fun d => s.reading d.register) >>= fun rows =>
        .ok (Matrix.ofRows s.modules rows)) := by
  refine (b.toRows_yields s).bind fun rows hrows k => ?_
  cases rows with
  | nil => exact ⟨0, rfl⟩
  | cons row rest =>
    obtain ⟨_, hvalues⟩ := readings_ok_iff.mp hrows
    have hrow : row.length = s.modules := length_of_mem_values (hvalues ▸ List.mem_cons_self)
    rw [← hrow]
    exact .done _ _

/-- What the DACs of a bank hold, seen without a call. -/
def shown (b : Bank) (s : Simulator) : Matrix :=
  Matrix.ofRows s.modules (b.dacs.map fun d => s.values d.register)

/-- An export succeeds if all registers answer. -/
theorem toMatrix_ok_iff {b : Bank} {m : Matrix} :
    (b.toMatrix.run detector s).result = .ok m ↔
      (∀ d ∈ b.dacs, s.Answers d.register) ∧ m = b.shown s := by
  obtain ⟨more, hending⟩ := b.toMatrix_yields s
  rw [(Prod.mk.inj hending).1, attempt_bind_ok]
  simp only [readings_ok_iff, Except.ok.injEq]
  constructor
  · rintro ⟨rows, ⟨hanswers, rfl⟩, rfl⟩
    exact ⟨hanswers, rfl⟩
  · rintro ⟨hanswers, rfl⟩
    exact ⟨_, ⟨hanswers, rfl⟩, rfl⟩

theorem toMatrix_state (b : Bank) (s : Simulator) :
    ∃ more, (b.toMatrix.run detector s).state = s.afterReads more := by
  obtain ⟨more, hending⟩ := b.toMatrix_yields s
  exact ⟨more, (Prod.mk.inj hending).2⟩

@[simp] theorem rows_shown (b : Bank) (s : Simulator) : (b.shown s).rows = b.dacs.length :=
  List.length_map ..

@[simp] theorem cols_shown (b : Bank) (s : Simulator) : (b.shown s).cols = s.modules :=
  rfl

theorem wellShaped_shown (b : Bank) (s : Simulator) : (b.shown s).WellShaped :=
  Matrix.wellShaped_ofRows fun _ => length_of_mem_values

theorem toRows_shown (b : Bank) (s : Simulator) :
    (b.shown s).toRows = b.dacs.map fun d => s.values d.register :=
  Matrix.toRows_ofRows fun _ => length_of_mem_values

theorem row_shown {b : Bank} {i : Nat} {d : Dac} (hd : b.dacs[i]? = some d) :
    (b.shown s).row i = s.values d.register := by
  apply Matrix.row_ofRows fun _ => length_of_mem_values
  rw [List.getElem?_map, hd]
  rfl

section
variable {rows : List (Dac × List Int32)}

theorem mem_cells {w : WriteCall Channel} :
    w ∈ cells rows ↔
      ∃ x ∈ rows, ∃ (m : Nat) (hm : m < x.2.length), ⟨⟨x.1.register, .raw⟩, x.2[m], [m]⟩ = w := by
  simp only [cells, rowCells, List.mem_flatMap, List.mem_mapIdx]

/-- The writes of rows pass their checks where reads of the same registers do. -/
theorem takes_cells_iff (fit : ∀ x ∈ rows, x.2.length = s.modules) :
    (∀ w ∈ cells rows, s.Takes w) ↔ ∀ x ∈ rows, s.Answers x.1.register := by
  constructor
  · intro htakes x hx m hm
    obtain ⟨hmodules, hr, _⟩ := htakes _ (mem_cells.mpr ⟨x, hx, m, fit x hx ▸ hm, rfl⟩)
    exact ⟨(checkModules_ok_iff.mp hmodules m (List.mem_singleton_self m)).2, hr⟩
  · intro hanswers w hw
    obtain ⟨x, hx, m, hm, rfl⟩ := mem_cells.mp hw
    have hm' : m < s.modules := fit x hx ▸ hm
    obtain ⟨hfailing, hr⟩ := hanswers x hx m hm'
    exact ⟨by simpa [checkModules_ok_iff] using ⟨hm', hfailing⟩, hr, _, rfl⟩

theorem length_cells {n : Nat} (fit : ∀ x ∈ rows, x.2.length = n) :
    (cells rows).length = rows.length * n := by
  induction rows with
  | nil => simp [cells]
  | cons x rows ih =>
    obtain ⟨hx, hrows⟩ := List.forall_mem_cons.mp fit
    change (rowCells x.1 x.2 ++ cells rows).length = _
    rw [List.length_append, ih hrows, rowCells, List.length_mapIdx, hx, List.length_cons,
      Nat.succ_mul, Nat.add_comm]

theorem moduleCount_ending (s : Simulator) :
    (Program.moduleCount : Program Channel Nat).ending detector s = (.ok s.modules, s) :=
  rfl

theorem writeRow_carries (i : Nat) (d : Dac) {row : List Int32} (fit : row.length = s.modules) :
    s.Carries (writeRow i d row) (rowCells d row) := by
  refine Carries.behind (moduleCount_ending s) ?_
  have hresolve : Selector.all.resolve s.modules = .ok (List.range s.modules) := rfl
  have hfit : ∀ values, Payload.perModule row = .perModule values →
      values.length = (List.range s.modules).length := by
    rintro values ⟨⟩
    rw [List.length_range, fit]
  have hset := d.setModules_carries hresolve hfit
  rw [Property.wanted, ← fit, zipWith_range_eq_rowCells] at hset
  rw [if_neg (by simp [fit])]
  exact hset

theorem writeRow_misfit (i : Nat) (d : Dac) {row : List Int32} (misfit : row.length ≠ s.modules) :
    (writeRow i d row).ending detector s =
      (.error (.shapeMismatch (.row i d.name) s.modules row.length), s) := by
  refine (ending_bind_ok (moduleCount_ending s)).trans ?_
  rw [if_pos misfit]
  rfl

theorem writeRows_carries (i : Nat) (fit : ∀ x ∈ rows, x.2.length = s.modules) :
    s.Carries (writeRows i rows) (cells rows) := by
  induction rows generalizing i s with
  | nil => exact .done s
  | cons x rows ih =>
    obtain ⟨hx, hrows⟩ := List.forall_mem_cons.mp fit
    exact (writeRow_carries i x.1 hx).bind fun s' hs => ih (i + 1) (hs.modules ▸ hrows)

/-- By induction on the rows: none of them changes the number of modules. -/
theorem fit_of_writeRows_ok {i : Nat} (h : ((writeRows i rows).run detector s).result = .ok ()) :
    ∀ x ∈ rows, x.2.length = s.modules := by
  induction rows generalizing i s with
  | nil => simp
  | cons x rows ih =>
    obtain ⟨_, s', hrow, hrest⟩ := ending_of_bind_ok (p := writeRow i x.1 x.2) h
    by_cases fit : x.2.length = s.modules
    · have hs : s' = (s.writeAll (rowCells x.1 x.2)).2 :=
        congrArg Prod.snd (hrow.symm.trans (writeRow_carries i x.1 fit))
      have hmodules : s'.modules = s.modules := hs ▸ (writeAll_sameSetting s _).modules
      exact List.forall_mem_cons.mpr ⟨fit, hmodules ▸ ih hrest⟩
    · rw [writeRow_misfit i x.1 fit] at hrow
      cases hrow

end

/-- An import is complete, its rows fit, all registers answer and there are writes left for it. -/
structure Accepts (s : Simulator) (b : Bank) (rows : List (List Int32)) : Prop where
  count : rows.length = b.dacs.length
  fit : ∀ row ∈ rows, row.length = s.modules
  answers : ∀ d ∈ b.dacs, s.Answers d.register
  affords : s.Affords (b.dacs.length * s.modules)

section
variable {b : Bank} {rows : List (List Int32)}

theorem importRows_carries (count : rows.length = b.dacs.length)
    (fit : ∀ row ∈ rows, row.length = s.modules) :
    s.Carries (b.importRows rows) (cells (b.dacs.zip rows)) := by
  refine Carries.behind (a := ()) ?_ (writeRows_carries 0 fun x hx => ?_)
  · rw [checkRowCount, if_pos count]
    rfl
  · exact fit x.2 (List.of_mem_zip hx).2

theorem fit_of_importRows_ok (h : ((b.importRows rows).run detector s).result = .ok ()) :
    rows.length = b.dacs.length ∧ ∀ row ∈ rows, row.length = s.modules := by
  obtain ⟨_, s', hcheck, hrows⟩ := ending_of_bind_ok (p := b.checkRowCount rows.length) h
  by_cases count : rows.length = b.dacs.length
  · rw [checkRowCount, if_pos count] at hcheck
    cases hcheck
    refine ⟨count, ?_⟩
    have hsnd : (b.dacs.zip rows).map Prod.snd = rows := List.map_snd_zip (Nat.le_of_eq count)
    rw [← hsnd]
    exact List.forall_mem_map.mpr (fit_of_writeRows_ok hrows)
  · rw [checkRowCount, if_neg count] at hcheck
    cases hcheck

/-- These are the conditions for the writes of all cells. -/
theorem writeAll_cells_ok_iff (count : rows.length = b.dacs.length)
    (fit : ∀ row ∈ rows, row.length = s.modules) :
    (s.writeAll (cells (b.dacs.zip rows))).1 = .ok () ↔
      (∀ d ∈ b.dacs, s.Answers d.register) ∧ s.Affords (b.dacs.length * s.modules) := by
  have hfit : ∀ x ∈ b.dacs.zip rows, x.2.length = s.modules :=
    fun x hx => fit x.2 (List.of_mem_zip hx).2
  have hfst : (b.dacs.zip rows).map Prod.fst = b.dacs := List.map_fst_zip (Nat.le_of_eq count.symm)
  rw [writeAll_ok_iff, takes_cells_iff hfit, length_cells hfit, List.length_zip, count,
    Nat.min_self]
  refine and_congr_left fun _ => ?_
  conv => rhs; rw [← hfst, List.forall_mem_map]

/-- The conditions are those of the start, since an import changes none of them but the number of
writes that are left. -/
theorem importRows_ok_iff :
    ((b.importRows rows).run detector s).result = .ok () ↔ Accepts s b rows := by
  constructor
  · intro h
    obtain ⟨count, fit⟩ := fit_of_importRows_ok h
    have hall := (importRows_carries count fit).ok_iff.mp h
    obtain ⟨answers, affords⟩ := (writeAll_cells_ok_iff count fit).mp hall
    exact ⟨count, fit, answers, affords⟩
  · rintro ⟨count, fit, answers, affords⟩
    exact (importRows_carries count fit).ok_iff.mpr
      ((writeAll_cells_ok_iff count fit).mpr ⟨answers, affords⟩)

theorem Accepts.sameSetting (h : Accepts s b rows) :
    SameSetting s ((b.importRows rows).run detector s).state := by
  rw [(importRows_carries h.count h.fit).state]
  exact writeAll_sameSetting s _

/-- What a module holds after an import that is accepted. -/
theorem Accepts.rawValue (h : Accepts s b rows) (r : Register) {m : Nat} (hm : m < s.modules) :
    ((b.importRows rows).run detector s).state.rawValue r m =
      (cells (b.dacs.zip rows)).foldl (leave r m) (s.rawValue r m) := by
  have hraw : ∀ w ∈ cells (b.dacs.zip rows), w.channel.unit = .raw := by
    intro w hw
    obtain ⟨x, _, m, _, rfl⟩ := mem_cells.mp hw
    rfl
  have hcarries := importRows_carries h.count h.fit
  rw [hcarries.state]
  exact rawValue_writeAll hraw (hcarries.ok_iff.mp (importRows_ok_iff.mpr h)) r hm

theorem fromMatrix_ending (b : Bank) (m : Matrix) (s : Simulator) :
    (b.fromMatrix m).ending detector s = (b.importRows m.toRows).ending detector s := by
  rw [fromMatrix_eq_importRows, ending_then_report]

theorem fromMatrix_ok_iff {m : Matrix} :
    ((b.fromMatrix m).run detector s).result = .ok () ↔ Accepts s b m.toRows := by
  rw [← importRows_ok_iff]
  exact Eq.congr_left (congrArg Prod.fst (fromMatrix_ending b m s))

theorem fromMatrix_state (b : Bank) (m : Matrix) (s : Simulator) :
    ((b.fromMatrix m).run detector s).state = ((b.importRows m.toRows).run detector s).state :=
  congrArg Prod.snd (fromMatrix_ending b m s)

end

end DacBank.Bank
