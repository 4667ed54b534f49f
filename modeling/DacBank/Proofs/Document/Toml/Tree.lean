import DacBank.Document.Toml.Tree

namespace DacBank.Document.Toml

namespace Body

variable {key : String} {b : Body}

def keys (b : Body) : List String :=
  b.map Prod.fst

theorem update_new (f : Option Node → Option Node) (h : key ∉ b.keys) :
    update key f b = (f none).map fun n => b ++ [(key, n)] := by
  induction b with
  | nil => rfl
  | cons x b ih =>
    obtain ⟨k, n⟩ := x
    simp only [keys, List.map_cons, List.mem_cons, not_or] at h
    simp only [update, Ne.symm h.1, ↓reduceIte, ih h.2, Option.map_map]
    rfl

theorem update_last (f : Option Node → Option Node) (n : Node) (h : key ∉ b.keys) :
    update key f (b ++ [(key, n)]) = (f (some n)).map fun n => b ++ [(key, n)] := by
  induction b with
  | nil => simp [update]
  | cons x b ih =>
    obtain ⟨k, m⟩ := x
    simp only [keys, List.map_cons, List.mem_cons, not_or] at h
    simp only [List.cons_append, update, Ne.symm h.1, ↓reduceIte, ih h.2, Option.map_map]
    rfl

/-- The lines of entries at the top of their table. -/
def plainEntries (es : Entries) : List (Path × Value) :=
  es.map fun e => (⟨[], e.1⟩, e.2)

def closedEntries (es : Entries) : Body :=
  es.map fun e => (e.1, Node.closed e.2)

theorem keys_closedEntries (es : Entries) : (closedEntries es).keys = es.map Prod.fst :=
  List.map_map

theorem addEntries_new {es : Entries} (h : (b.keys ++ es.map Prod.fst).Nodup) :
    b.addEntries (plainEntries es) = some (b ++ closedEntries es) := by
  induction es generalizing b with
  | nil => simp [plainEntries, closedEntries, addEntries]
  | cons e es ih =>
    obtain ⟨key, v⟩ := e
    have hkey : key ∉ b.keys := by
      intro hmem
      exact (List.nodup_append.mp h).2.2 key hmem key List.mem_cons_self rfl
    have hadd : b.addEntry (⟨[], key⟩, v) = some (b ++ [(key, .closed v)]) :=
      update_new _ hkey
    have hlater : addEntries (b ++ [(key, .closed v)]) (plainEntries es) =
        some (b ++ [(key, .closed v)] ++ closedEntries es) := by
      apply ih
      simpa [keys] using h
    rw [List.append_assoc] at hlater
    simp only [plainEntries, List.map_cons, addEntries, hadd]
    exact hlater

end Body

open Body

@[simp] theorem bodyEntries_append (b b' : Body) :
    bodyEntries (b ++ b') = bodyEntries b ++ bodyEntries b' := by
  induction b with
  | nil => rfl
  | cons x b ih => simp [bodyEntries, ih]

@[simp] theorem bodyEntries_closedEntries (es : Entries) :
    bodyEntries (closedEntries es) = es := by
  induction es with
  | nil => rfl
  | cons e es ih =>
    simp only [closedEntries, List.map_cons, bodyEntries, Node.value]
    exact congrArg (e :: ·) ih

/-- One table of a list of tables under a key. -/
def listSection (key : String) (es : Entries) : Section :=
  ⟨.tables, ⟨[], key⟩, plainEntries es⟩

theorem addSections_behind {key : String} {b : Body} (hkey : key ∉ b.keys) {tables : List Entries}
    (hdistinct : ∀ es ∈ tables, (es.map Prod.fst).Nodup) (earlier : List Value) (last : Body) :
    ∃ n, addSections (b ++ [(key, .tables earlier last)]) (tables.map (listSection key)) =
        some (b ++ [(key, n)]) ∧
      n.value = .list (earlier ++ .table (bodyEntries last) :: tables.map .table) := by
  induction tables generalizing earlier last with
  | nil => exact ⟨.tables earlier last, rfl, rfl⟩
  | cons es tables ih =>
    have hes : addEntries [] (plainEntries es) = some (closedEntries es) :=
      addEntries_new (hdistinct es List.mem_cons_self)
    have hadd : (listSection key es).addTo (b ++ [(key, .tables earlier last)]) =
        some (b ++
          [(key, .tables (earlier ++ [.table (bodyEntries last)]) (closedEntries es))]) := by
      refine (update_last _ _ hkey).trans ?_
      simp [Section.place, listSection, hes]
    obtain ⟨n, hlater, hn⟩ := ih (fun es hes => hdistinct es (List.mem_cons_of_mem _ hes))
      (earlier ++ [.table (bodyEntries last)]) (closedEntries es)
    refine ⟨n, ?_, ?_⟩
    · simp only [List.map_cons, addSections, hadd]
      exact hlater
    · simp [hn]

/-- The sections of a list of tables make one entry with the tables in their order. -/
theorem addSections_tables {key : String} {b : Body} (hkey : key ∉ b.keys) {tables : List Entries}
    (hne : tables ≠ []) (hdistinct : ∀ es ∈ tables, (es.map Prod.fst).Nodup) :
    ∃ n, addSections b (tables.map (listSection key)) = some (b ++ [(key, n)]) ∧
      n.value = .list (tables.map .table) := by
  obtain ⟨es, tables, rfl⟩ := List.exists_cons_of_ne_nil hne
  have hes : addEntries [] (plainEntries es) = some (closedEntries es) :=
    addEntries_new (hdistinct es List.mem_cons_self)
  have hadd : (listSection key es).addTo b =
      some (b ++ [(key, .tables [] (closedEntries es))]) := by
    refine (update_new _ hkey).trans ?_
    simp [Section.place, listSection, hes]
  obtain ⟨n, hlater, hn⟩ := addSections_behind hkey
    (fun es hes => hdistinct es (List.mem_cons_of_mem _ hes)) [] (closedEntries es)
  refine ⟨n, ?_, ?_⟩
  · simp only [List.map_cons, addSections, hadd]
    exact hlater
  · simp [hn]

end DacBank.Document.Toml
