import DacBank.Proofs.Document.Toml.Lines
import DacBank.Proofs.Document.Toml.Tree

namespace DacBank.Document.Toml

open Text Text.Reader

theorem readLines_of_takes {s : List Char} {ls : List Line} (h : Takes readLine s ls []) {n : Nat}
    (hn : s.length ≤ n) : readLines n s = some ls := by
  generalize hrest : ([] : List Char) = rest at h
  induction h generalizing n with
  | done s =>
    subst hrest
    cases n <;> rfl
  | @next s u rest l ls taken shorter later ih =>
    obtain ⟨n, rfl⟩ : ∃ k, n = k + 1 := ⟨n - 1, by omega⟩
    obtain ⟨c, cs, rfl⟩ : ∃ c cs, s = c :: cs := by
      apply List.exists_cons_of_length_pos
      omega
    simp only [readLines, taken, ih (by omega : u.length ≤ n) hrest, Option.map_some]

theorem sections_entries (es : Entries) (ls : List Line) :
    sections (es.map entryLine ++ ls) =
      (Body.plainEntries es ++ (sections ls).1, (sections ls).2) := by
  induction es with
  | nil => rfl
  | cons e es ih =>
    simp only [List.map_cons, List.cons_append, entryLine, sections]
    rw [ih]
    rfl

theorem sections_dacLines (d : Dac) {ls : List Line} (hls : (sections ls).1 = []) :
    sections (dacLines d ++ ls) = ([], listSection "dacs" (dacEntries d) :: (sections ls).2) := by
  simp only [dacLines, List.cons_append, sections, sections_entries, hls, List.append_nil]
  rfl

theorem sections_dacsLines (dacs : List Dac) :
    sections (dacsLines dacs) = ([], dacs.map fun d => listSection "dacs" (dacEntries d)) := by
  induction dacs with
  | nil => rfl
  | cons d dacs ih =>
    cases dacs with
    | nil =>
      have hone : sections (dacLines d ++ []) = ([], [listSection "dacs" (dacEntries d)]) :=
        sections_dacLines d rfl
      rw [List.append_nil] at hone
      exact hone
    | cons e dacs =>
      have hlater : sections (.blank :: dacsLines (e :: dacs)) =
          ([], (e :: dacs).map fun d => listSection "dacs" (dacEntries d)) := ih
      simp only [dacsLines, sections_dacLines d (congrArg Prod.fst hlater), hlater]
      rfl

/-- The lines of a document: the detector, and the DACs behind an empty line. -/
def tableLines (t : Table) : List Line :=
  (detectorEntries t).map entryLine ++
    match t.detector, t.dacs with
    | _, [] => [entryLine ("dacs", .list [])]
    | none, ds => dacsLines ds
    | some _, ds => .blank :: dacsLines ds

theorem takes_writeDetector (t : Table) (rest : List Char) :
    Takes readLine (writeDetector t ++ rest) ((detectorEntries t).map entryLine) rest := by
  unfold writeDetector detectorEntries
  cases t.detector with
  | none => exact .done rest
  | some name => exact takes_entry (rfl : isBare "detector" = true) (written_text name) rest

theorem takes_write (t : Table) : Takes readLine (write t).toList (tableLines t) [] := by
  rw [write, String.toList_ofList]
  refine (takes_writeDetector t _).trans ?_
  obtain ⟨detector, dacs⟩ := t
  cases dacs with
  | nil =>
    have hentry := takes_entry (rfl : isBare "dacs" = true) written_emptyList []
    rw [List.append_nil] at hentry
    exact hentry
  | cons d dacs =>
    have hdacs := takes_writeDacs (d :: dacs) []
    rw [List.append_nil] at hdacs
    cases detector with
    | none => exact hdacs
    | some name => exact (takes_blank _).trans hdacs

/-- A table without DACs has an entry of its own for its list, and a table with DACs a section for
each of them. -/
theorem sections_tableLines (t : Table) :
    sections (tableLines t) =
      if t.dacs = [] then (Body.plainEntries (detectorEntries t ++ [("dacs", .list [])]), [])
      else (Body.plainEntries (detectorEntries t),
        t.dacs.map fun d => listSection "dacs" (dacEntries d)) := by
  rw [tableLines, sections_entries]
  obtain ⟨detector, dacs⟩ := t
  cases dacs with
  | nil => simp [Body.plainEntries, entryLine, sections]
  | cons d dacs =>
    cases detector with
    | none => simp [sections_dacsLines]
    | some name => simp [sections, sections_dacsLines]

theorem nodup_tableKeys (t : Table) : ((detectorEntries t).map Prod.fst ++ ["dacs"]).Nodup := by
  unfold detectorEntries
  cases t.detector with
  | none => decide
  | some name =>
    simp only [List.map_cons, List.map_nil]
    decide

theorem nodup_dacKeys (d : Dac) : ((dacEntries d).map Prod.fst).Nodup := by
  simp only [dacEntries, List.map_cons, List.map_nil]
  decide

theorem ofLines_tableLines (t : Table) : ofLines (tableLines t) = some (writeTable t) := by
  have hkeys := nodup_tableKeys t
  obtain ⟨hdetector, _, hapart⟩ := List.nodup_append.mp hkeys
  have hnew : "dacs" ∉ Body.keys (Body.closedEntries (detectorEntries t)) := by
    rw [Body.keys_closedEntries]
    intro hmem
    exact hapart "dacs" hmem "dacs" List.mem_cons_self rfl
  rw [ofLines, sections_tableLines, writeTable_eq]
  by_cases hdacs : t.dacs = []
  · have hadd : Body.addEntries [] (Body.plainEntries (detectorEntries t ++ [("dacs", .list [])])) =
        some (Body.closedEntries (detectorEntries t ++ [("dacs", .list [])])) := by
      apply Body.addEntries_new
      rw [List.map_append]
      exact hkeys
    simp [hdacs, hadd, addSections]
  · have hadd : Body.addEntries [] (Body.plainEntries (detectorEntries t)) =
        some (Body.closedEntries (detectorEntries t)) := Body.addEntries_new hdetector
    have hdistinct : ∀ es ∈ t.dacs.map dacEntries, (es.map Prod.fst).Nodup := by
      intro es hes
      obtain ⟨d, _, rfl⟩ := List.mem_map.mp hes
      exact nodup_dacKeys d
    obtain ⟨n, hsections, hn⟩ := addSections_tables hnew (by simpa using hdacs) hdistinct
    rw [List.map_map] at hsections hn
    have hvalue : n.value = .list (t.dacs.map Document.writeDac) := hn
    simp only [hdacs, ↓reduceIte, hadd]
    change (addSections _ (t.dacs.map (listSection "dacs" ∘ dacEntries))).map _ = _
    rw [hsections]
    simp [bodyEntries, hvalue]

/-- What is written for a table is a document, and the document of this table. -/
theorem read?_write (t : Table) : read? (write t) = some (writeTable t) := by
  have hmark : dropMark (write t).toList = (write t).toList := by
    rw [write, String.toList_ofList]
    obtain ⟨detector, dacs⟩ := t
    cases detector with
    | some name => rfl
    | none =>
      match dacs with
      | [] => rfl
      | [d] => rfl
      | d :: e :: dacs => rfl
  simp only [read?, hmark, readLines_of_takes (takes_write t) (Nat.le_refl _), ofLines_tableLines]

end DacBank.Document.Toml
