import DacBank.Proofs.Bank.Simulated
import DacBank.Proofs.Row

namespace DacBank

open Simulator

theorem Dac.render_yields (d : Dac) (s : Simulator) :
    s.Yields d.render (s.reading d.register >>= fun row => .ok (Row.format d.name row)) :=
  (d.get_yields s).bind fun row _ more => .done (s.afterReads more) (Row.format d.name row)

namespace Bank

/-- The text of a display that shows these rows, one below the other. -/
def display (b : Bank) (rows : List (List Int32)) : String :=
  String.intercalate "\n"
    (Row.header :: List.zipWith (fun d row => Row.format d.name row) b.dacs rows)

theorem render_yields (b : Bank) (s : Simulator) :
    s.Yields b.render
      (b.dacs.mapM (fun d => s.reading d.register) >>= fun rows => .ok (b.display rows)) := by
  have hlines : s.Yields (renderEach b.dacs)
      (b.dacs.mapM (fun d => s.reading d.register) >>= fun rows =>
        .ok (List.zipWith (fun d row => Row.format d.name row) b.dacs rows)) := by
    rw [renderEach_eq_mapM, ← mapM_bind_ok]
    refine .mapM b.dacs fun d more => ?_
    rw [← reading_afterReads s more]
    exact d.render_yields (s.afterReads more)
  have htext := hlines.bind fun lines _ more =>
    .done (s.afterReads more) (String.intercalate "\n" (Row.header :: lines))
  rwa [bind_assoc] at htext

/-- The display fails where the export does, and in the same way. -/
theorem result_render (b : Bank) (s : Simulator) :
    (b.render.run detector s).result =
      (b.toRows.run detector s).result >>= fun rows => .ok (b.display rows) := by
  obtain ⟨_, hrender⟩ := b.render_yields s
  obtain ⟨_, hrows⟩ := b.toRows_yields s
  rw [(Prod.mk.inj hrender).1, (Prod.mk.inj hrows).1]

theorem length_of_toRows_ok {b : Bank} {s : Simulator} {rows : List (List Int32)}
    (h : (b.toRows.run detector s).result = .ok rows) : rows.length = b.dacs.length := by
  obtain ⟨_, hrows⟩ := b.toRows_yields s
  rw [(Prod.mk.inj hrows).1] at h
  exact length_of_mapM_ok h

/-- A display succeeds where an export does and fails as it does. Its text is the header and a line
for each DAC with its row of the export, and values that fit their columns are read back from it. -/
theorem render_shows_exported_rows (b : Bank) (s : Simulator) :
    (∀ e, (b.render.run detector s).result = .error e ↔
        (b.toRows.run detector s).result = .error e) ∧
      (∀ text, (b.render.run detector s).result = .ok text ↔
        ∃ rows, (b.toRows.run detector s).result = .ok rows ∧ rows.length = b.dacs.length ∧
          text = String.intercalate "\n"
            (Row.header :: List.zipWith (fun d row => Row.format d.name row) b.dacs rows)) ∧
      (∀ name values, (∀ v ∈ values, Row.Fits v) →
        let text := Row.behindName name (Row.format name values)
        (Row.columns text).flatten = text ∧ (∀ c ∈ Row.columns text, c.length = 5) ∧
          (Row.columns text).map Row.readCell = values.map Int32.toInt) ∧
      ∀ name xs ys, (∀ v ∈ xs, Row.Fits v) → (∀ v ∈ ys, Row.Fits v) →
        Row.format name xs = Row.format name ys → xs = ys := by
  rw [result_render]
  refine ⟨?_, ?_, fun name _ => Row.columns_format name, fun name _ _ => Row.format_injective name⟩
  · intro e
    cases (b.toRows.run detector s).result <;> simp
  · intro text
    rw [attempt_bind_ok]
    constructor
    · rintro ⟨rows, hrows, htext⟩
      exact ⟨rows, hrows, length_of_toRows_ok hrows, (Except.ok.inj htext).symm⟩
    · rintro ⟨rows, hrows, _, rfl⟩
      exact ⟨rows, hrows, rfl⟩

/-- Two DACs with one register. Their values fill the columns, and no blank stands between them. -/
theorem render_shows_exported_rows_shared :
    let b : Bank :=
      .ofDistinct [⟨"vth1", ⟨0⟩, 0, 4000, 1200⟩, ⟨"v", ⟨0⟩, 0, 4000, 1000⟩] (by decide)
    let first := ((ofModules 2).write ⟨⟨0⟩, .raw⟩ 12345 [0]).state
    let s := (first.write ⟨⟨0⟩, .raw⟩ (-9999) [1]).state
    let text := Row.behindName "v" (Row.format "v" [12345, -9999])
    (b.render.run detector s).result = .ok
        "========== DACS =========\nvth1           :12345-9999\nv              :12345-9999" ∧
      ((b.render.run detector (s.failModule (some 1))).result = .error
        (.communication (.module 1 "simulated communication failure"))) ∧
      String.ofList text = "12345-9999" ∧ (Row.columns text).map Row.readCell = [12345, -9999] := by
  intro b first s text
  obtain ⟨_, hok, hcolumns, _⟩ := render_shows_exported_rows b s
  obtain ⟨herror, _⟩ := render_shows_exported_rows b (s.failModule (some 1))
  have hfits : ∀ v ∈ ([12345, -9999] : List Int32), Row.Fits v :=
    List.forall_mem_cons.mpr
      ⟨⟨by decide, by decide⟩, List.forall_mem_singleton.mpr ⟨by decide, by decide⟩⟩
  refine ⟨?_, ?_, rfl, (hcolumns "v" _ hfits).2.2⟩
  · rw [hok]
    exact ⟨[[12345, -9999], [12345, -9999]], rfl, rfl, rfl⟩
  · rw [herror]
    rfl

end Bank

end DacBank
