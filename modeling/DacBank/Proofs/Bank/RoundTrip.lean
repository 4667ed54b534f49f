import DacBank.Proofs.Bank.Simulated

namespace DacBank.Bank

open Program Simulator

/-- Place `j` holds the last of the DACs that have this register. -/
structure LastOf (dacs : List Dac) (r : Register) (j : Nat) : Prop where
  here : ∃ d, dacs[j]? = some d ∧ d.register = r
  later : ∀ k > j, ∀ d, dacs[k]? = some d → d.register ≠ r

theorem exists_lastOf {dacs : List Dac} {r : Register} (h : ∃ d ∈ dacs, d.register = r) :
    ∃ j, LastOf dacs r j := by
  induction dacs with
  | nil => simp at h
  | cons d rest ih =>
    by_cases hrest : ∃ e ∈ rest, e.register = r
    · obtain ⟨j, here, later⟩ := ih hrest
      refine ⟨j + 1, here, ?_⟩
      intro k hk e he
      cases k with
      | zero => omega
      | succ k => exact later k (by omega) e he
    · refine ⟨0, ⟨d, rfl, ?_⟩, ?_⟩
      · obtain ⟨e, he, hr⟩ := h
        rcases List.mem_cons.mp he with rfl | he
        · exact hr
        · exact absurd ⟨e, he, hr⟩ hrest
      · intro k hk e he hr
        cases k with
        | zero => omega
        | succ k => exact hrest ⟨e, List.mem_of_getElem? he, hr⟩

theorem LastOf.unique {dacs : List Dac} {r : Register} {j k : Nat} (hj : LastOf dacs r j)
    (hk : LastOf dacs r k) : j = k := by
  obtain ⟨d, hd, hdr⟩ := hj.here
  obtain ⟨e, he, her⟩ := hk.here
  rcases Nat.lt_trichotomy j k with hlt | heq | hgt
  · exact absurd her (hj.later k hlt e he)
  · exact heq
  · exact absurd hdr (hk.later j hgt d hd)

theorem LastOf.eq_of_nodup {dacs : List Dac} {d : Dac} {i j : Nat}
    (h : LastOf dacs d.register j) (hd : dacs[i]? = some d)
    (distinct : (dacs.map Dac.register).Nodup) : j = i := by
  obtain ⟨e, he, hr⟩ := h.here
  obtain ⟨hj, _⟩ := List.getElem?_eq_some_iff.mp he
  have hsame : (dacs.map Dac.register)[j]? = (dacs.map Dac.register)[i]? := by simp [he, hd, hr]
  exact (List.getElem?_inj (by simpa using hj) distinct).mp hsame

section
variable {r : Register} {m : Nat} {old : Int32}

theorem foldl_leave_cells_last {before behind : List (Dac × List Int32)} {d : Dac}
    {row : List Int32} (hm : m < row.length)
    (later : ∀ x ∈ behind, x.1.register ≠ d.register) :
    (cells (before ++ (d, row) :: behind)).foldl (leave d.register m) old = row[m] := by
  have hcells : cells (before ++ (d, row) :: behind) =
      cells before ++ cells ((d, row) :: behind) := by simp [cells]
  rw [hcells, List.foldl_append]
  apply foldl_leave
  · intro w hw hr hmodule
    obtain ⟨x, hx, k, hk, rfl⟩ := mem_cells.mp hw
    rcases List.mem_cons.mp hx with rfl | hx
    · obtain rfl := List.mem_singleton.mp hmodule
      rfl
    · exact absurd hr (later x hx)
  · right
    refine ⟨_, mem_cells.mpr ⟨(d, row), List.mem_cons_self, m, hm, rfl⟩, rfl, ?_⟩
    exact List.mem_singleton_self m

theorem foldl_leave_cells_same {rows : List (Dac × List Int32)}
    (same : ∀ x ∈ rows, x.1.register = r → x.2[m]? = some old) :
    (cells rows).foldl (leave r m) old = old := by
  apply foldl_leave
  · intro w hw hr hmodule
    obtain ⟨x, hx, k, hk, rfl⟩ := mem_cells.mp hw
    obtain rfl := List.mem_singleton.mp hmodule
    have hvalue := same x hx hr
    rw [List.getElem?_eq_getElem hk] at hvalue
    exact Option.some.inj hvalue
  · exact .inl rfl

end

variable {s : Simulator} {b : Bank} {rows : List (List Int32)}

/-- An accepted import leaves in a register the row of the last DAC that has it. -/
theorem Accepts.values_last (h : Accepts s b rows) {r : Register} {j : Nat} {row : List Int32}
    (last : LastOf b.dacs r j) (hrow : rows[j]? = some row) :
    ((b.importRows rows).run detector s).state.values r = row := by
  obtain ⟨⟨d, hd, rfl⟩, later⟩ := last
  have hfit : row.length = s.modules := h.fit row (List.mem_of_getElem? hrow)
  have hplace : (b.dacs.zip rows)[j]? = some (d, row) := List.getElem?_zip_eq_some.mpr ⟨hd, hrow⟩
  have hsplit : b.dacs.zip rows =
      (b.dacs.zip rows).take j ++ (d, row) :: (b.dacs.zip rows).drop (j + 1) := by
    obtain ⟨hj, hget⟩ := List.getElem?_eq_some_iff.mp hplace
    rw [← hget, List.getElem_cons_drop, List.take_append_drop]
  have hbehind : ∀ x ∈ (b.dacs.zip rows).drop (j + 1), x.1.register ≠ d.register := by
    intro x hx
    obtain ⟨k, hk⟩ := List.mem_iff_getElem?.mp hx
    rw [List.getElem?_drop] at hk
    exact later (j + 1 + k) (by omega) x.1 (List.getElem?_zip_eq_some.mp hk).1
  rw [Simulator.values, h.sameSetting.modules]
  apply List.ext_getElem
  · simp [hfit]
  · intro m hm hm'
    rw [List.getElem_map, List.getElem_range, h.rawValue _ (hfit ▸ hm'), hsplit]
    exact foldl_leave_cells_last hm' hbehind

/-- An accepted import changes nothing in a register if all rows for it are what it holds. -/
theorem Accepts.values_same (h : Accepts s b rows) {r : Register}
    (same : ∀ x ∈ b.dacs.zip rows, x.1.register = r → x.2 = s.values r) :
    ((b.importRows rows).run detector s).state.values r = s.values r := by
  rw [Simulator.values, Simulator.values, h.sameSetting.modules]
  apply List.map_congr_left
  intro m hm
  have hm : m < s.modules := List.mem_range.mp hm
  rw [h.rawValue r hm]
  apply foldl_leave_cells_same
  intro x hx hr
  rw [same x hx hr]
  simp [values, hm]

theorem Accepts.shape {m : Matrix} (h : Accepts s b m.toRows) (hm : m.WellShaped)
    (nonempty : b.dacs ≠ []) : m.rows = b.dacs.length ∧ m.cols = s.modules := by
  have hrows : m.rows = b.dacs.length := m.length_toRows.symm.trans h.count
  have hfirst : 0 < m.rows := hrows ▸ List.length_pos_of_ne_nil nonempty
  have hfit := h.fit _ (List.mem_of_getElem? (Matrix.getElem?_toRows hfirst))
  exact ⟨hrows, (hm.length_row hfirst).symm.trans hfit⟩

theorem Accepts.row_shown {m : Matrix} (h : Accepts s b m.toRows) {i : Nat} {d : Dac}
    (hd : b.dacs[i]? = some d) :
    ∃ j, LastOf b.dacs d.register j ∧
      (b.shown ((b.importRows m.toRows).run detector s).state).row i = m.row j := by
  obtain ⟨j, last⟩ := exists_lastOf ⟨d, List.mem_of_getElem? hd, rfl⟩
  obtain ⟨e, he, _⟩ := last.here
  obtain ⟨hj, _⟩ := List.getElem?_eq_some_iff.mp he
  rw [← h.count, m.length_toRows] at hj
  refine ⟨j, last, ?_⟩
  rw [Bank.row_shown hd]
  exact h.values_last last (Matrix.getElem?_toRows hj)

/-- After an import of a matrix an export succeeds and gives a matrix of the same shape. The row of
each DAC is the imported one of the last DAC that has its register, so it is the same matrix if no
two DACs share one. -/
theorem toMatrix_after_fromMatrix {m : Matrix} (nonempty : b.dacs ≠ []) (hm : m.WellShaped)
    (imported : ((b.fromMatrix m).run detector s).result = .ok ()) :
    ∃ m', (b.toMatrix.run detector ((b.fromMatrix m).run detector s).state).result = .ok m' ∧
      m'.WellShaped ∧ m'.rows = m.rows ∧ m'.cols = m.cols ∧
      (∀ i d, b.dacs[i]? = some d → ∃ j, LastOf b.dacs d.register j ∧ m'.row i = m.row j) ∧
      ((b.dacs.map Dac.register).Nodup → m' = m) := by
  have accepted := fromMatrix_ok_iff.mp imported
  obtain ⟨hrows, hcols⟩ := accepted.shape hm nonempty
  have hsetting := accepted.sameSetting
  have hlast := fun {i d} (hd : b.dacs[i]? = some d) => accepted.row_shown hd
  rw [fromMatrix_state]
  generalize ((b.importRows m.toRows).run detector s).state = s' at hsetting hlast ⊢
  have hread : (b.toMatrix.run detector s').result = .ok (b.shown s') :=
    toMatrix_ok_iff.mpr ⟨fun d hd => hsetting.answers (accepted.answers d hd), rfl⟩
  have hrows' : (b.shown s').rows = m.rows := (b.rows_shown s').trans hrows.symm
  have hcols' : (b.shown s').cols = m.cols :=
    (b.cols_shown s').trans (hsetting.modules.trans hcols.symm)
  refine ⟨b.shown s', hread, b.wellShaped_shown s', hrows', hcols', fun i d => hlast, ?_⟩
  intro distinct
  apply hm.eq_of_rows (b.wellShaped_shown s') hrows' hcols'
  intro i hi
  obtain ⟨d, hd⟩ : ∃ d, b.dacs[i]? = some d := ⟨_, List.getElem?_eq_getElem (hrows ▸ hi)⟩
  obtain ⟨j, last, hrow⟩ := hlast hd
  rw [hrow, last.eq_of_nodup hd distinct]

/-- The first and the third DAC share a register, and the writes are just enough. -/
theorem toMatrix_after_fromMatrix_shared :
    let b : Bank := .ofDistinct [⟨"vth1", ⟨0⟩, 0, 4000, 1200⟩, ⟨"vth2", ⟨1⟩, 0, 4000, 1000⟩,
      ⟨"vth3", ⟨0⟩, 0, 4000, 1000⟩] (by decide)
    let m : Matrix := ⟨3, 2, [1, 2, 3, 4, 5, 6]⟩
    let s := (Simulator.ofModules 2).failAfterWrites (some 6)
    b.dacs ≠ [] ∧ m.WellShaped ∧ ((b.fromMatrix m).run detector s).result = .ok () ∧
      ∃ m', (b.toMatrix.run detector ((b.fromMatrix m).run detector s).state).result = .ok m' ∧
        m'.rows = 3 ∧ m'.cols = 2 ∧ m'.row 0 = [5, 6] := by
  intro b m s
  have nonempty : b.dacs ≠ [] := List.cons_ne_nil _ _
  have hm : m.WellShaped := rfl
  have imported : ((b.fromMatrix m).run detector s).result = .ok () := by
    refine fromMatrix_ok_iff.mpr ⟨rfl, by decide, ?_, ?_⟩
    · intro d _ module _
      exact ⟨nofun, rfl⟩
    · intro left hleft
      cases hleft
      decide
  have last : LastOf b.dacs ⟨0⟩ 2 := by
    refine ⟨⟨_, rfl, rfl⟩, ?_⟩
    intro k hk d hd
    obtain ⟨hk', _⟩ := List.getElem?_eq_some_iff.mp hd
    exact absurd hk' (Nat.not_lt.mpr hk)
  obtain ⟨m', hread, _, hrows, hcols, hshown, _⟩ :=
    toMatrix_after_fromMatrix nonempty hm imported
  obtain ⟨j, hj, hrow⟩ := hshown 0 _ rfl
  rw [hj.unique last] at hrow
  exact ⟨nonempty, hm, imported, m', hread, hrows, hcols, hrow⟩

/-- What an export gives can be imported if there are writes left for all cells, and this changes no
value of any register. -/
theorem fromMatrix_of_toMatrix {m : Matrix}
    (exported : (b.toMatrix.run detector s).result = .ok m)
    (budget : s.Affords (b.dacs.length * s.modules)) :
    let o := (b.fromMatrix m).run detector (b.toMatrix.run detector s).state
    o.result = .ok () ∧ ∀ r, o.state.values r = s.values r := by
  obtain ⟨answers, rfl⟩ := toMatrix_ok_iff.mp exported
  obtain ⟨more, hstate⟩ := toMatrix_state b s
  rw [hstate]
  have accepted : Accepts (s.afterReads more) b (b.shown s).toRows := by
    rw [toRows_shown]
    refine ⟨List.length_map .., fun row => length_of_mem_values, ?_, budget⟩
    intro d hd
    exact (afterReads_sameSetting s more).answers (answers d hd)
  refine ⟨fromMatrix_ok_iff.mpr accepted, ?_⟩
  intro r
  rw [fromMatrix_state]
  apply accepted.values_same
  intro x hx hr
  rw [toRows_shown, ← List.map_prod_left_eq_zip] at hx
  obtain ⟨d, _, rfl⟩ := List.mem_map.mp hx
  exact congrArg s.values hr

/-- Register 0 is shared and was written on one module, register 1 was never written. The failing
module is none of the two, and the writes are just enough. -/
theorem fromMatrix_of_toMatrix_unwritten :
    let b : Bank := .ofDistinct [⟨"vth1", ⟨0⟩, 0, 4000, 1200⟩, ⟨"vth2", ⟨1⟩, 0, 4000, 1000⟩,
      ⟨"vth3", ⟨0⟩, 0, 4000, 1000⟩] (by decide)
    let written := ((Simulator.ofModules 2).write ⟨⟨0⟩, .raw⟩ 5 [1]).state
    let s := (written.failModule (some 2)).failAfterWrites (some 6)
    let m : Matrix := ⟨3, 2, [0, 5, 0, 0, 0, 5]⟩
    let o := (b.fromMatrix m).run detector (b.toMatrix.run detector s).state
    (b.toMatrix.run detector s).result = .ok m ∧ s.Affords (b.dacs.length * s.modules) ∧
      o.result = .ok () ∧ ∀ r, o.state.values r = s.values r := by
  intro b written s m o
  have exported : (b.toMatrix.run detector s).result = .ok m := rfl
  have budget : s.Affords (b.dacs.length * s.modules) := by
    intro left hleft
    cases hleft
    decide
  exact ⟨exported, budget, fromMatrix_of_toMatrix exported budget⟩

end DacBank.Bank
