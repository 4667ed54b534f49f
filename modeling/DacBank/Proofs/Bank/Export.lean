import DacBank.Proofs.Bank.Loops
import DacBank.Proofs.Matrix
import DacBank.Proofs.Property.Reply
import DacBank.Script
import DacBank.Simulator

namespace DacBank.Bank

open Program Exchange Property

/-- The reading of one DAC: the number of modules it is told and the reply it gets. -/
structure Scan where
  dac : Dac
  count : Nat
  reply : Except DetectorError (List Int32)
  /-- Without modules nothing is asked for. -/
  blank : count = 0 → reply = .ok []

namespace Scan

def exchanges (x : Scan) : List (Exchange Channel) :=
  .counted x.count ::
    if x.count = 0 then [] else [.read ⟨x.dac.register, .raw⟩ (List.range x.count) x.reply]

/-- What comes of the scan at place `i`. An error of the detector comes first, then a reply of the
wrong length, then a number of modules that is not the first one. -/
def verdict (first i : Nat) (x : Scan) : Except DacError (List Int32) :=
  match x.reply with
  | .error e => .error (.communication e)
  | .ok values =>
    if values.length ≠ x.count then
      .error (.communication (.invalidResponse x.count values.length))
    else if x.count ≠ first then
      .error (.shapeMismatch (.row i x.dac.name) first x.count)
    else .ok values

/-- The verdict is the reading of the DAC, and behind it the check of the row. -/
theorem verdict_eq (first i : Nat) (x : Scan) :
    x.verdict first i = received (List.range x.count) x.reply >>= fun row =>
      if row.length ≠ first then .error (.shapeMismatch (.row i x.dac.name) first row.length)
      else .ok row := by
  unfold verdict received
  rw [List.length_range]
  cases x.reply with
  | error e => rfl
  | ok values =>
    simp only
    by_cases hlen : values.length ≠ x.count
    · rw [if_pos hlen, if_pos hlen]
      rfl
    · rw [if_neg hlen, if_neg hlen, ← Decidable.not_not.mp hlen]
      rfl

theorem length_of_verdict {first i : Nat} {x : Scan} {row : List Int32}
    (h : x.verdict first i = .ok row) : row.length = first := by
  rw [verdict_eq] at h
  cases hrow : received (List.range x.count) x.reply with
  | error e =>
    rw [hrow] at h
    cases h
  | ok values =>
    rw [hrow] at h
    by_cases hlen : values.length ≠ first
    · cases (if_pos hlen).symm.trans h
    · cases (if_neg hlen).symm.trans h
      exact Decidable.not_not.mp hlen

/-- The scans at the places from `i` on. -/
def verdicts (first i : Nat) (scans : List Scan) : List (Except DacError (List Int32)) :=
  (scans.zipIdx i).map fun x => x.1.verdict first x.2

@[simp] theorem verdicts_nil (first i : Nat) : verdicts first i [] = [] :=
  rfl

@[simp] theorem verdicts_cons (first i : Nat) (x : Scan) (rest : List Scan) :
    verdicts first i (x :: rest) = x.verdict first i :: verdicts first (i + 1) rest :=
  rfl

theorem length_of_verdicts {first i : Nat} {scans : List Scan} {rows : List (List Int32)}
    (h : verdicts first i scans = rows.map .ok) : ∀ row ∈ rows, row.length = first := by
  intro row hrow
  have hok : .ok row ∈ verdicts first i scans := by
    rw [h]
    exact List.mem_map_of_mem hrow
  obtain ⟨x, _, hx⟩ := List.mem_map.mp hok
  exact length_of_verdict hx

end Scan

open Scan

/-- Reading all modules of a DAC is one scan, of which the length of the reply is judged. -/
theorem get_scanned {d : Dac} {t : List (Exchange Channel)} {r : Except DacError (List Int32)}
    (h : Recorded d.get t r) :
    ∃ x : Scan, x.dac = d ∧ calls t = x.exchanges ∧ writes t = [] ∧
      r = received (List.range x.count) x.reply := by
  obtain ⟨n, u, rfl, hend⟩ := read_recorded h
  rcases hend with ⟨e, he, _⟩ | ⟨hnone, rfl, rfl⟩ | ⟨modules, answer, events, hm, hne, rfl, rfl⟩
  · cases he
  · have hn : n = 0 := by
      cases n with
      | zero => rfl
      | succ n => simp [Selector.resolve, List.range_succ] at hnone
    subst hn
    exact ⟨⟨d, 0, .ok [], fun _ => rfl⟩, rfl, rfl, rfl, rfl⟩
  · cases hm
    have hn : n ≠ 0 := by
      rintro rfl
      exact hne rfl
    refine ⟨⟨d, n, answer, fun h => absurd h hn⟩, rfl, ?_, by simp, rfl⟩
    simp [exchanges, hn, Dac.stepProperty]

theorem readRow_scanned {cols i : Nat} {d : Dac} {t : List (Exchange Channel)}
    {r : Except DacError (List Int32)} (h : Recorded (readRow cols i d) t r) :
    ∃ x : Scan, x.dac = d ∧ calls t = x.exchanges ∧ writes t = [] ∧ r = x.verdict cols i := by
  rcases h.of_bind with ⟨row, t₁, t₂, h₁, h₂, rfl⟩ | ⟨e, h₁, rfl⟩
  · obtain ⟨x, rfl, hcalls, hwrites, hrow⟩ := get_scanned h₁
    refine ⟨x, rfl, ?_⟩
    rw [verdict_eq, ← hrow]
    split at h₂
    · rename_i hlen
      cases h₂
      exact ⟨by simp [hcalls], by simp [hwrites], (if_pos hlen).symm⟩
    · rename_i hlen
      cases h₂
      exact ⟨by simp [hcalls], by simp [hwrites], (if_neg hlen).symm⟩
  · obtain ⟨x, rfl, hcalls, hwrites, hrow⟩ := get_scanned h₁
    refine ⟨x, rfl, hcalls, hwrites, ?_⟩
    rw [verdict_eq, ← hrow]
    rfl

/-- How far the scans of some DACs came: to the last DAC, or to the first one without a row. -/
inductive ScanEnd (first i : Nat) (dacs : List Dac) (scans : List Scan) :
    Except DacError (List (List Int32)) → Prop where
  | whole {rows : List (List Int32)} (all : scans.map Scan.dac = dacs)
      (passed : verdicts first i scans = rows.map .ok) : ScanEnd first i dacs scans (.ok rows)
  | stopped (rows : List (List Int32)) {e : DacError} (begun : scans.map Scan.dac <+: dacs)
      (failed : verdicts first i scans = rows.map .ok ++ [.error e]) :
      ScanEnd first i dacs scans (.error e)

theorem ScanEnd.after {first i : Nat} {x : Scan} {rest : List Dac} {scans : List Scan}
    {row : List Int32} {r : Except DacError (List (List Int32))}
    (hx : x.verdict first i = .ok row) (h : ScanEnd first (i + 1) rest scans r) :
    ScanEnd first i (x.dac :: rest) (x :: scans) (r.map (row :: ·)) := by
  cases h with
  | whole all passed => exact .whole (by simp [all]) (by simp [hx, passed])
  | stopped rows begun failed =>
    refine .stopped (row :: rows) ?_ (by simp [hx, failed])
    exact List.cons_prefix_cons.mpr ⟨rfl, begun⟩

theorem ScanEnd.stop {first i : Nat} {x : Scan} {e : DacError}
    (hx : x.verdict first i = .error e) (rest : List Dac) :
    ScanEnd first i (x.dac :: rest) [x] (.error e) :=
  .stopped [] (List.cons_prefix_cons.mpr ⟨rfl, List.nil_prefix⟩) (by simp [hx])

/-- By induction on the DACs: rows that fit add up until one scan stops the reading. -/
theorem readRows_scanned {cols i : Nat} {dacs : List Dac} {t : List (Exchange Channel)}
    {r : Except DacError (List (List Int32))} (h : Recorded (readRows cols i dacs) t r) :
    ∃ scans : List Scan, calls t = scans.flatMap Scan.exchanges ∧ writes t = [] ∧
      ScanEnd cols i dacs scans r := by
  induction dacs generalizing i t r with
  | nil =>
    cases h
    exact ⟨[], rfl, rfl, .whole rfl rfl⟩
  | cons d rest ih =>
    rw [readRows_cons] at h
    rcases h.of_bind with ⟨row, t₁, t₂, h₁, h₂, rfl⟩ | ⟨e, h₁, rfl⟩
    · obtain ⟨x, rfl, hcalls, hwrites, hrow⟩ := readRow_scanned h₁
      obtain ⟨r', hrest, rfl⟩ := h₂.of_map
      obtain ⟨scans, hcalls', hwrites', hend⟩ := ih hrest
      exact ⟨x :: scans, by simp [hcalls, hcalls'], by simp [hwrites, hwrites'],
        hend.after hrow.symm⟩
    · obtain ⟨x, rfl, hcalls, hwrites, hrow⟩ := readRow_scanned h₁
      exact ⟨[x], by simp [hcalls], hwrites, .stop hrow.symm rest⟩

theorem toRows_scanned {b : Bank} {t : List (Exchange Channel)}
    {r : Except DacError (List (List Int32))} (h : Recorded b.toRows t r) :
    ∃ first, ∃ scans : List Scan, calls t = .counted first :: scans.flatMap Scan.exchanges ∧
      writes t = [] ∧ ScanEnd first 0 b.dacs scans r := by
  obtain ⟨first, u, rfl, hu⟩ := Recorded.of_moduleCount_bind h
  obtain ⟨scans, hcalls, hwrites, hend⟩ := readRows_scanned hu
  exact ⟨first, scans, by simp [hcalls], by simp [hwrites], hend⟩

/-- What follows the reading of the rows has to be right for rows of one length only. -/
theorem readRows_bind_congr {α : Type} {cols i : Nat} {dacs : List Dac}
    {f g : List (List Int32) → Program Channel α}
    (h : ∀ rows, rows.length = dacs.length → (∀ row ∈ rows, row.length = cols) → f rows = g rows) :
    readRows cols i dacs >>= f = readRows cols i dacs >>= g := by
  induction dacs generalizing i f g with
  | nil => exact h [] rfl (by simp)
  | cons d rest ih =>
    simp only [readRows_cons, readRow, LawfulMonad.bind_assoc, bind_map_left]
    refine congrArg (d.get >>= ·) (funext fun row => ?_)
    by_cases hlen : row.length ≠ cols
    · rw [if_pos hlen]
      rfl
    · rw [if_neg hlen, pure_bind, pure_bind]
      refine ih fun rows hrows hall => h (row :: rows) (by simp [hrows]) ?_
      exact List.forall_mem_cons.mpr ⟨Decidable.not_not.mp hlen, hall⟩

/-- The export as it is when the matrix is made of loose entries and a shape. -/
def toMatrix? (b : Bank) : Program Channel (Option Matrix) := do
  let rows ← b.toRows
  let cols ← match rows with
    | [] => Program.moduleCount
    | row :: _ => pure row.length
  return Matrix.ofEntries? b.dacs.length cols rows.flatten

/-- The number of entries is always that of the places. -/
theorem toMatrix?_eq (b : Bank) : b.toMatrix? = some <$> b.toMatrix := by
  simp only [toMatrix?, toMatrix, toRows, LawfulMonad.bind_assoc, map_bind]
  refine congrArg (Program.moduleCount >>= ·) (funext fun cols => readRows_bind_congr ?_)
  intro rows hlen hall
  cases rows with
  | nil =>
    refine congrArg (Program.moduleCount >>= ·) (funext fun cols => ?_)
    rw [← hlen, Matrix.ofEntries?_flatten (by simp)]
    rfl
  | cons row rest =>
    obtain ⟨hrow, _⟩ := List.forall_mem_cons.mp hall
    simp only [pure_bind, hrow, ← hlen, Matrix.ofEntries?_flatten hall]
    rfl

theorem ScanEnd.length_eq {first i : Nat} {dacs : List Dac} {scans : List Scan}
    {rows : List (List Int32)} (h : ScanEnd first i dacs scans (.ok rows)) :
    rows.length = dacs.length := by
  cases h with
  | whole all passed =>
    have hlength := congrArg List.length passed
    simp only [verdicts, List.length_map, List.length_zipIdx] at hlength
    rw [← hlength, ← all, List.length_map]

/-- However the detector answers, an export writes nothing and never has a wrong number of entries
for its matrix. Behind the first number of modules it scans the DACs in their order, up to the first
scan whose verdict is an error, which is the result. When all scans end well, their rows are those
of the matrix, and its width is the first number of modules; without DACs it is the number read
last. -/
theorem toMatrix_scans {σ : Type} (h : Detector Channel σ) (b : Bank) (s : σ) :
    let o := b.toMatrix.run h s
    b.toMatrix?.run h s = ⟨o.result.map some, o.record, o.state⟩ ∧ writes o.record = [] ∧
      ∃ first, ∃ scans : List Scan,
        match o.result with
        | .ok m =>
          scans.map Scan.dac = b.dacs ∧ verdicts first 0 scans = m.toRows.map .ok ∧
            m.rows = b.dacs.length ∧ m.WellShaped ∧
            if b.dacs = [] then calls o.record = [.counted first, .counted m.cols]
            else calls o.record = .counted first :: scans.flatMap Scan.exchanges ∧ m.cols = first
        | .error e =>
          scans.map Scan.dac <+: b.dacs ∧
            (∃ rows : List (List Int32), verdicts first 0 scans = rows.map .ok ++ [.error e]) ∧
            calls o.record = .counted first :: scans.flatMap Scan.exchanges := by
  intro o
  have hrec : Recorded b.toMatrix o.record o.result := run_recorded h _ s
  refine ⟨by rw [toMatrix?_eq, run_map], ?_⟩
  generalize o.record = t at hrec ⊢
  generalize o.result = r at hrec ⊢
  rcases hrec.of_bind with ⟨rows, t₁, t₂, h₁, h₂, rfl⟩ | ⟨e, h₁, rfl⟩
  · obtain ⟨first, scans, hcalls, hwrites, hend⟩ := toRows_scanned h₁
    have hlength := hend.length_eq
    cases hend with
    | whole all passed =>
      have hrows : ∀ row ∈ rows, row.length = first := length_of_verdicts passed
      cases rows with
      | nil =>
        have hempty : b.dacs = [] := List.length_eq_zero_iff.mp hlength.symm
        obtain ⟨cols, u, rfl, hu⟩ := Recorded.of_moduleCount_bind h₂
        cases hu
        have hnone : scans = [] := List.map_eq_nil_iff.mp (all.trans hempty)
        refine ⟨by simp [hwrites], first, scans, all, passed, hlength, ?_, ?_⟩
        · exact Matrix.wellShaped_ofRows (by simp)
        · rw [if_pos hempty]
          simp [hcalls, hnone, Matrix.ofRows]
      | cons row rest =>
        have hsome : b.dacs ≠ [] := by
          intro hempty
          simp [hempty] at hlength
        cases h₂
        rw [(List.forall_mem_cons.mp hrows).1]
        refine ⟨by simp [hwrites], first, scans, all, ?_, hlength,
          Matrix.wellShaped_ofRows hrows, ?_⟩
        · rw [Matrix.toRows_ofRows hrows, passed]
        · rw [if_neg hsome]
          exact ⟨by simp [hcalls], rfl⟩
  · obtain ⟨first, scans, hcalls, hwrites, hend⟩ := toRows_scanned h₁
    cases hend with
    | stopped rows begun failed => exact ⟨hwrites, first, scans, begun, ⟨rows, failed⟩, hcalls⟩

/-- The detector gains a module between two rows. -/
example :
    let b : Bank :=
      .ofDistinct [⟨"vth1", ⟨0⟩, 0, 4000, 1200⟩, ⟨"vth2", ⟨1⟩, 0, 4000, 1000⟩] (by decide)
    let script : Script := ⟨[], [], [2, 2, 3]⟩
    (b.toMatrix.run (Script.detector Simulator.detector) (script, Simulator.ofModules 3)).result =
      .error (.shapeMismatch (.row 1 "vth2") 2 3) :=
  rfl

end DacBank.Bank
