import DacBank.Matrix

namespace DacBank.Matrix

/-- A matrix of entries that stand row after row. There is none unless their number is that of the
places. -/
def ofEntries? (rows cols : Nat) (entries : List Int32) : Option Matrix :=
  if entries.length = rows * cols then some ⟨rows, cols, entries⟩ else none

variable {cols : Nat} {rows : List (List Int32)}

theorem wellShaped_ofRows (h : ∀ row ∈ rows, row.length = cols) :
    (ofRows cols rows).WellShaped := by
  change rows.flatten.length = rows.length * cols
  induction rows with
  | nil => simp
  | cons row rest ih =>
    obtain ⟨hrow, hrest⟩ := List.forall_mem_cons.mp h
    rw [List.flatten_cons, List.length_append, hrow, ih hrest, List.length_cons, Nat.succ_mul,
      Nat.add_comm]

theorem ofEntries?_flatten (h : ∀ row ∈ rows, row.length = cols) :
    ofEntries? rows.length cols rows.flatten = some (ofRows cols rows) :=
  if_pos (wellShaped_ofRows h)

theorem row_ofRows (h : ∀ row ∈ rows, row.length = cols) {i : Nat} {row : List Int32}
    (hi : rows[i]? = some row) : (ofRows cols rows).row i = row := by
  change (rows.flatten.drop (i * cols)).take cols = row
  induction rows generalizing i with
  | nil => simp at hi
  | cons first rest ih =>
    obtain ⟨hfirst, hrest⟩ := List.forall_mem_cons.mp h
    cases i with
    | zero =>
      obtain rfl : first = row := by simpa using hi
      rw [Nat.zero_mul, List.drop_zero, List.flatten_cons, List.take_left' hfirst]
    | succ i =>
      have hskip : (i + 1) * cols = first.length + i * cols := by
        rw [Nat.succ_mul, hfirst, Nat.add_comm]
      rw [hskip, List.flatten_cons, List.drop_length_add_append]
      exact ih hrest (by simpa using hi)

theorem toRows_ofRows (h : ∀ row ∈ rows, row.length = cols) : (ofRows cols rows).toRows = rows := by
  apply List.ext_getElem
  · simp [toRows, ofRows]
  · intro i _ hi
    have hrow := row_ofRows h (List.getElem?_eq_getElem hi)
    simpa [toRows] using hrow

variable {m m' : Matrix}

@[simp] theorem length_toRows (m : Matrix) : m.toRows.length = m.rows := by
  simp [toRows]

theorem getElem?_toRows {i : Nat} (hi : i < m.rows) : m.toRows[i]? = some (m.row i) := by
  simp [toRows, hi]

theorem WellShaped.length_row (h : m.WellShaped) {i : Nat} (hi : i < m.rows) :
    (m.row i).length = m.cols := by
  have hplaces : m.entries.length = m.rows * m.cols := h
  have hend : i * m.cols + m.cols ≤ m.rows * m.cols := by
    rw [← Nat.succ_mul]
    exact Nat.mul_le_mul_right m.cols hi
  rw [row, List.length_take, List.length_drop, hplaces]
  omega

theorem flatten_first_rows (m : Matrix) (n : Nat) :
    ((List.range n).map m.row).flatten = m.entries.take (n * m.cols) := by
  induction n with
  | zero => simp
  | succ n ih =>
    rw [List.range_succ, List.map_append, List.flatten_append, ih, List.map_singleton,
      List.flatten_singleton, row, Nat.succ_mul, List.take_add]

theorem WellShaped.ofRows_toRows (h : m.WellShaped) : ofRows m.cols m.toRows = m := by
  have hentries : m.toRows.flatten = m.entries := by
    rw [toRows, flatten_first_rows]
    exact List.take_of_length_le (Nat.le_of_eq h)
  rw [ofRows, length_toRows, hentries]

/-- Nothing but the shape and the rows makes a difference. -/
theorem WellShaped.eq_of_rows (h : m.WellShaped) (h' : m'.WellShaped) (hrows : m'.rows = m.rows)
    (hcols : m'.cols = m.cols) (hrow : ∀ i < m.rows, m'.row i = m.row i) : m' = m := by
  have htoRows : m'.toRows = m.toRows := by
    rw [toRows, toRows, hrows]
    exact List.map_congr_left fun i hi => hrow i (List.mem_range.mp hi)
  rw [← h.ofRows_toRows, ← h'.ofRows_toRows, htoRows, hcols]

end DacBank.Matrix
