import DacBank.Bank
import DacBank.Proofs.Dac.Recorded
import DacBank.Simulator

namespace DacBank.Bank

open Program Exchange Property

/-- The writes of a row, one for each module. -/
def rowCells (d : Dac) (row : List Int32) : List (WriteCall Channel) :=
  row.mapIdx fun j value => ⟨⟨d.register, .raw⟩, value, [j]⟩

/-- The writes of all cells, row after row. -/
def cells (rows : List (Dac × List Int32)) : List (WriteCall Channel) :=
  rows.flatMap fun (d, row) => rowCells d row

/-- The modules of a row are counted like its values. -/
theorem zipWith_range_eq_rowCells (d : Dac) (row : List Int32) :
    List.zipWith (fun m v => ⟨⟨d.register, .raw⟩, v, [m]⟩) (List.range row.length) row =
      rowCells d row := by
  apply List.ext_getElem
  · simp [rowCells]
  · intro j h₁ h₂
    simp [rowCells]

/-- How far an import of rows came. A row does not fit when its length differs from the number of
modules, read once before the row and once more for its writes. Rows are counted from `i`. -/
inductive ImportEnd (i : Nat) (rows : List (Dac × List Int32)) (t : List (Exchange Channel)) :
    Except DacError Unit → Prop where
  | carried {r : Except DacError Unit} (progress : Progress (cells rows) t r)
      (counted : r = .ok () → counts t = rows.flatMap fun x => [x.2.length, x.2.length]) :
      ImportEnd i rows t r
  | misfit {k modules : Nat} {d : Dac} {row : List Int32} {what : Shape}
      (found : rows[k]? = some (d, row)) (told : what = .row (i + k) d.name ∨ what = .values d.name)
      (differs : row.length ≠ modules) (issued : writes t = accepted (cells (rows.take k))) :
      ImportEnd i rows t (.error (.shapeMismatch what modules row.length))

theorem ImportEnd.after {i : Nat} {d : Dac} {row : List Int32} {rest : List (Dac × List Int32)}
    {t₁ t₂ : List (Exchange Channel)} {r : Except DacError Unit}
    (h₁ : ImportEnd i [(d, row)] t₁ (.ok ())) (h : ImportEnd (i + 1) rest t₂ r) :
    ImportEnd i ((d, row) :: rest) (t₁ ++ t₂) r := by
  obtain ⟨hw, hc⟩ :
      writes t₁ = accepted (rowCells d row) ∧ counts t₁ = [row.length, row.length] := by
    cases h₁ with
    | carried progress counted =>
      cases progress with
      | finished all => exact ⟨by simpa [cells] using all, by simpa using counted rfl⟩
  cases h with
  | carried progress counted =>
    refine .carried (by simpa [cells] using progress.after hw) ?_
    intro hr
    simp [hc, counted hr]
  | @misfit k modules e other what found told differs issued =>
    refine .misfit (k := k + 1) (d := e) found ?_ differs ?_
    · rwa [show i + (k + 1) = i + 1 + k by omega]
    · simp [hw, issued, cells]

theorem ImportEnd.stop {i : Nat} {x : Dac × List Int32} {t : List (Exchange Channel)} {e : DacError}
    (h : ImportEnd i [x] t (.error e)) (rest : List (Dac × List Int32)) :
    ImportEnd i (x :: rest) t (.error e) := by
  cases h with
  | carried progress counted =>
    refine .carried ?_ (by simp)
    simpa [cells] using progress.stop (cells rest)
  | @misfit k modules d row what found told differs issued =>
    obtain ⟨rfl, rfl⟩ : k = 0 ∧ x = (d, row) := by
      cases k with
      | zero => simpa using found
      | succ k => simp at found
    exact .misfit (k := 0) rfl told differs issued

theorem writeRow_recorded {i : Nat} {d : Dac} {row : List Int32} {t : List (Exchange Channel)}
    {r : Except DacError Unit} (h : Recorded (writeRow i d row) t r) :
    reads t = [] ∧ ImportEnd i [(d, row)] t r := by
  rcases h.of_bind with ⟨n, t₁, t₂, h₁, h₂, rfl⟩ | ⟨e, h₁, rfl⟩
  · obtain ⟨_, rfl, hn⟩ := h₁.of_moduleCount
    cases hn
    split at h₂
    · rename_i hne
      cases h₂
      exact ⟨rfl, .misfit (k := 0) rfl (.inl rfl) hne rfl⟩
    · rename_i heq
      obtain rfl : row.length = n := Decidable.not_not.mp heq
      obtain ⟨u, rfl, hu⟩ := Dac.setModules_recorded h₂
      obtain ⟨n, hreads, hcounts, hend⟩ := write_recorded hu
      refine ⟨by simp [hreads], ?_⟩
      rcases hend with ⟨e, he, _⟩ | ⟨modules, hn, hend⟩
      · cases he
      cases hn
      rw [List.length_range] at hend
      rcases hend with ⟨values, hv, hne, hw, rfl⟩ | ⟨hlen, hp⟩
      · cases hv
        exact .misfit (k := 0) rfl (.inr rfl) hne (by simp [hw, accepted, cells])
      · obtain rfl : row.length = n := hlen row rfl
        have hrow : Progress (rowCells d row)
            ([.counted row.length] ++ ((d.warning (.perModule row)).map .reported ++ u)) r := by
          rw [← zipWith_range_eq_rowCells d row]
          exact (hp.behind (writes_reported _)).behind rfl
        refine .carried ?_ (fun _ => by simp [hcounts])
        simpa [cells] using hrow
  · obtain ⟨_, _, hn⟩ := h₁.of_moduleCount
    cases hn

/-- By induction on the rows: those that fit add up until one stops the import. -/
theorem writeRows_recorded {i : Nat} {rows : List (Dac × List Int32)} {t : List (Exchange Channel)}
    {r : Except DacError Unit} (h : Recorded (writeRows i rows) t r) :
    reads t = [] ∧ ImportEnd i rows t r := by
  induction rows generalizing i t with
  | nil =>
    cases h
    exact ⟨rfl, .carried (.finished rfl) (fun _ => rfl)⟩
  | cons x rest ih =>
    obtain ⟨d, row⟩ := x
    rcases h.of_bind with ⟨_, t₁, t₂, h₁, h₂, rfl⟩ | ⟨e, h₁, rfl⟩
    · obtain ⟨hreads₁, hend₁⟩ := writeRow_recorded h₁
      obtain ⟨hreads₂, hend₂⟩ := ih h₂
      exact ⟨by simp [hreads₁, hreads₂], hend₁.after hend₂⟩
    · obtain ⟨hreads, hend⟩ := writeRow_recorded h₁
      exact ⟨hreads, hend.stop rest⟩

/-- An import checks the number of rows, writes the rows and reports. -/
theorem fromRows_recorded {b : Bank} {rows : List (List Int32)} {t : List (Exchange Channel)}
    {r : Except DacError Unit} (h : Recorded (b.fromRows rows) t r) :
    (rows.length ≠ b.dacs.length ∧ t = [] ∧
        r = .error (.shapeMismatch .matrixRows b.dacs.length rows.length)) ∨
      (rows.length = b.dacs.length ∧ reads t = [] ∧ ImportEnd 0 (b.dacs.zip rows) t r) := by
  by_cases hlen : rows.length = b.dacs.length
  · refine .inr ⟨hlen, ?_⟩
    have hcheck : b.checkRowCount rows.length = .done () := if_pos hlen
    simp only [fromRows, hcheck] at h
    rcases Recorded.of_bind (p := writeRows 0 (b.dacs.zip rows)) h with
      ⟨_, t₁, t₂, h₁, h₂, rfl⟩ | ⟨e, h₁, rfl⟩
    · obtain ⟨hreads, hend⟩ := writeRows_recorded h₁
      obtain ⟨rfl, rfl⟩ := h₂.of_report
      refine ⟨by simp [hreads], ?_⟩
      cases hend with
      | carried progress counted =>
        cases progress with
        | finished all =>
          exact .carried (.finished (by simp [all])) (fun hr => by simp [counted hr])
    · exact writeRows_recorded h₁
  · refine .inl ⟨hlen, ?_⟩
    have hcheck : b.checkRowCount rows.length =
        .fail (.shapeMismatch .matrixRows b.dacs.length rows.length) := if_neg hlen
    simp only [fromRows, hcheck] at h
    cases h
    exact ⟨rfl, rfl⟩

/-- The writes of a finished or broken import are the first of its cells. -/
theorem ImportEnd.isPrefix {i : Nat} {rows : List (Dac × List Int32)} {t : List (Exchange Channel)}
    {r : Except DacError Unit} (h : ImportEnd i rows t r) :
    (writes t).map Prod.fst <+: cells rows := by
  cases h with
  | carried progress counted => exact progress.isPrefix
  | @misfit k modules d row what found told differs issued =>
    rw [issued, map_fst_accepted]
    refine ⟨cells (rows.drop k), ?_⟩
    rw [cells, cells, ← List.flatMap_append, List.take_append_drop]
    rfl

/-- However the detector answers: a wrong number of rows is refused without a call. Otherwise there
are only writes and counts, the writes are the first cells row after row, and the result tells how
far they came. All cells are written and every count was right; or the last call is the write that
was refused, and the writes before it were not; or a row did not fit, and the rows before it are
written. -/
theorem fromRows_writes {σ : Type} (h : Detector Channel σ) (b : Bank) (rows : List (List Int32))
    (s : σ) :
    let o := (b.fromRows rows).run h s
    let wanted := cells (b.dacs.zip rows)
    (rows.length ≠ b.dacs.length →
      o.result = .error (.shapeMismatch .matrixRows b.dacs.length rows.length) ∧
        calls o.record = []) ∧
    (rows.length = b.dacs.length →
      reads o.record = [] ∧ (writes o.record).map Prod.fst <+: wanted ∧
        match o.result with
        | .ok () =>
          writes o.record = accepted wanted ∧
            counts o.record = rows.flatMap fun row => [row.length, row.length]
        | .error (.communication e) =>
          ∃ before w, writes o.record = accepted before ++ [(w, .error e)] ∧
            (calls o.record).getLast? = some (w.exchange (.error e))
        | .error (.shapeMismatch what expected actual) =>
          ∃ i d row, (b.dacs.zip rows)[i]? = some (d, row) ∧
            (what = .row i d.name ∨ what = .values d.name) ∧ actual = row.length ∧
            actual ≠ expected ∧ writes o.record = accepted (cells ((b.dacs.zip rows).take i))
        | .error _ => False) := by
  intro o wanted
  have hrec : Recorded (b.fromRows rows) o.record o.result := run_recorded h _ s
  generalize o.record = t at hrec ⊢
  generalize o.result = r at hrec ⊢
  rcases fromRows_recorded hrec with ⟨hne, rfl, rfl⟩ | ⟨heq, hreads, hend⟩
  · exact ⟨fun _ => ⟨rfl, rfl⟩, fun heq => absurd heq hne⟩
  · refine ⟨fun hne => absurd heq hne, fun _ => ⟨hreads, hend.isPrefix, ?_⟩⟩
    cases hend with
    | carried progress counted =>
      cases progress with
      | finished all =>
        refine ⟨all, (counted rfl).trans ?_⟩
        have hsnd : (b.dacs.zip rows).map Prod.snd = rows := List.map_snd_zip (Nat.le_of_eq heq)
        conv => rhs; rw [← hsnd, List.flatMap_map]
      | refused before w after split issued last => exact ⟨before, w, issued, last⟩
    | @misfit k modules d row what found told differs issued =>
      rw [Nat.zero_add] at told
      exact ⟨k, d, row, found, told, rfl, differs, issued⟩

/-- Two rows for two DACs, with writes left for three of the four cells. -/
theorem fromRows_writes_timeout :
    let b : Bank :=
      .ofDistinct [⟨"vth1", ⟨0⟩, 0, 4000, 1200⟩, ⟨"vth2", ⟨1⟩, 0, 4000, 1000⟩] (by decide)
    let o := (b.fromRows [[1, 2], [3, 4]]).run Simulator.detector
      ((Simulator.ofModules 2).failAfterWrites (some 3))
    [[1, 2], [(3 : Int32), 4]].length = b.dacs.length ∧
      o.result = .error (.communication .timeout) ∧
      (writes o.record).map Prod.fst <+: cells (b.dacs.zip [[1, 2], [3, 4]]) ∧
      [[(1 : Int32), 2]].length ≠ b.dacs.length ∧
      calls ((b.fromRows [[1, 2]]).run Simulator.detector (Simulator.ofModules 2)).record = [] := by
  intro b o
  have hfits := (fromRows_writes Simulator.detector b [[1, 2], [3, 4]]
    ((Simulator.ofModules 2).failAfterWrites (some 3))).2 rfl
  have hshort :=
    (fromRows_writes Simulator.detector b [[1, 2]] (Simulator.ofModules 2)).1 (by decide)
  exact ⟨rfl, rfl, hfits.2.1, by decide, hshort.2⟩

end DacBank.Bank
