import DacBank.Proofs.Bank.Names
import DacBank.Table.File

namespace DacBank

open Program

namespace Bank

/-- By induction on the DACs, along which the names seen are those of the bank. -/
theorem registerAll_firstRepeated {b : Bank} {seen : List String} (dacs : List Dac)
    (same : ∀ name, name ∈ seen ↔ name ∈ b.names) :
    match firstRepeated seen (dacs.map Dac.name) with
    | some name => b.registerAll dacs = .error (.duplicateDac name)
    | none => ∃ b', b.registerAll dacs = .ok b' ∧ b'.dacs = b.dacs ++ dacs := by
  induction dacs generalizing b seen with
  | nil => exact ⟨b, rfl, (List.append_nil b.dacs).symm⟩
  | cons d rest ih =>
    rw [List.map_cons, firstRepeated, registerAll]
    by_cases hd : d.name ∈ seen
    · rw [if_pos hd, register_known ((same _).mp hd)]
    · obtain ⟨next, hreg, hdacs, _⟩ := register_new (mt (same _).mpr hd)
      have hsame : ∀ name, name ∈ d.name :: seen ↔ name ∈ next.names := by
        intro name
        rw [List.mem_cons, same name, names, names, hdacs, List.map_append, List.mem_append,
          List.map_singleton, List.mem_singleton, or_comm]
      have hrest := ih hsame
      rw [hdacs, List.append_assoc, List.singleton_append] at hrest
      rw [if_neg hd, hreg]
      exact hrest

theorem ofDacs_firstRepeated (dacs : List Dac) :
    match firstRepeated [] (dacs.map Dac.name) with
    | some name => ofDacs dacs = .error (.duplicateDac name)
    | none => ∃ b, ofDacs dacs = .ok b ∧ b.dacs = dacs :=
  registerAll_firstRepeated (b := empty) dacs fun _ => Iff.rfl

/-- A bank has the DACs that it was made of. -/
theorem dacs_of_ofDacs {dacs : List Dac} {b : Bank} (h : ofDacs dacs = .ok b) : b.dacs = dacs := by
  have hdacs := ofDacs_firstRepeated dacs
  split at hdacs
  · rw [h] at hdacs
    cases hdacs
  · obtain ⟨b', hb', hsame⟩ := hdacs
    rw [h] at hb'
    cases hb'
    exact hsame

end Bank

namespace Table

theorem nonempty_of_validate {t : Table} (h : t.validate = .ok ()) : t.dacs ≠ [] := by
  intro hempty
  rw [validate, hempty] at h
  cases h

theorem validate_of_ofText {text : String} {t : Table} (h : ofText text = .ok t) :
    t.validate = .ok () := by
  unfold ofText ofDocument at h
  split at h
  · cases h
  · split at h
    · cases h
    · split at h
      · cases h
      · rename_i hvalid
        cases h
        exact hvalid

end Table

namespace Bank

/-- Validation finds the repeated name that registration stops at. -/
theorem validate_agrees_ofDacs {t : Table} (nonempty : t.dacs ≠ []) :
    (∃ name, t.validate = .error (.duplicateName name) ∧
      ofDacs t.dacs = .error (.duplicateDac name)) ∨
    ∃ b, t.validate = .ok () ∧ ofDacs t.dacs = .ok b ∧ b.dacs = t.dacs := by
  have hdacs := ofDacs_firstRepeated t.dacs
  have hempty : ¬ t.dacs.isEmpty = true := by simpa using nonempty
  rw [Table.validate, if_neg hempty]
  cases hname : firstRepeated [] (t.dacs.map Dac.name) with
  | some name =>
    rw [hname] at hdacs
    exact .inl ⟨name, rfl, hdacs⟩
  | none =>
    rw [hname] at hdacs
    obtain ⟨b, hb, hbdacs⟩ := hdacs
    exact .inr ⟨b, rfl, hb, hbdacs⟩

variable {σ : Type}

theorem create_result {dacs : List Dac} {x : Except DacError Bank} (hx : ofDacs dacs = x)
    (h : Detector Channel σ) (s : σ) : ((create dacs).run h s).result = x := by
  rw [create, hx]
  cases x <;> rfl

theorem ofTable_invalid {t : Table} {fault : TableFault} (ht : t.validate = .error fault)
    (h : Detector Channel σ) (s : σ) :
    ((ofTable t).run h s).result = .error (.config (.table fault)) := by
  rw [ofTable, ht]
  rfl

theorem ofTable_valid {t : Table} {b : Bank} (ht : t.validate = .ok ()) (hb : ofDacs t.dacs = .ok b)
    (h : Detector Channel σ) (s : σ) : ((ofTable t).run h s).result = .ok b := by
  rw [ofTable, ht]
  exact create_result hb h s

/-- A table gives a bank exactly if it has DACs and these give a bank, and then it is the same bank.
If it has DACs, the name it is refused for is the one the DACs alone are refused for, and the error
is always one of the table. A table that was read from a text gives a bank, with the DACs of the
table in their order. -/
theorem ofTable_agrees_create (h : Detector Channel σ) (s : σ) :
    (∀ t : Table,
      let x := (ofTable t).run h s
      let y := (create t.dacs).run h s
      (∀ b, x.result = .ok b ↔ t.dacs ≠ [] ∧ y.result = .ok b) ∧
      (t.dacs ≠ [] → ∀ name, x.result = .error (.config (.table (.duplicateName name))) ↔
        y.result = .error (.duplicateDac name)) ∧
      ∀ name, x.result ≠ .error (.duplicateDac name)) ∧
    ∀ text t, Table.ofText text = .ok t →
      ∃ b, ((ofTable t).run h s).result = .ok b ∧ b.dacs = t.dacs := by
  constructor
  · intro t x y
    rcases eq_or_ne t.dacs [] with hempty | nonempty
    · have hvalid : t.validate = .error .empty := by
        rw [Table.validate, hempty]
        rfl
      have hx : x.result = .error (.config (.table .empty)) := ofTable_invalid hvalid h s
      simp [hx, hempty]
    · rcases validate_agrees_ofDacs nonempty with ⟨name, hvalid, hdacs⟩ | ⟨b, hvalid, hdacs, _⟩
      · have hx : x.result = .error (.config (.table (.duplicateName name))) :=
          ofTable_invalid hvalid h s
        have hy : y.result = .error (.duplicateDac name) := create_result hdacs h s
        simp [hx, hy]
      · have hx : x.result = .ok b := ofTable_valid hvalid hdacs h s
        have hy : y.result = .ok b := create_result hdacs h s
        simp [hx, hy, nonempty]
  · intro text t htext
    have hvalid := Table.validate_of_ofText htext
    rcases validate_agrees_ofDacs (Table.nonempty_of_validate hvalid) with
      ⟨name, hinvalid, _⟩ | ⟨b, _, hdacs, hb⟩
    · rw [hvalid] at hinvalid
      cases hinvalid
    · exact ⟨b, ofTable_valid hvalid hdacs h s, hb⟩

/-- Of the four DACs the third has the name of the first and the fourth that of the second; the text
names two DACs of one register. -/
theorem ofTable_agrees_create_repeated :
    let repeated : Table := ⟨none, [⟨"vth1", ⟨0⟩, 0, 10, 1⟩, ⟨"vth2", ⟨1⟩, 0, 10, 2⟩,
      ⟨"vth1", ⟨2⟩, 0, 10, 3⟩, ⟨"vth2", ⟨3⟩, 0, 10, 4⟩]⟩
    let text := "dacs = [[\"vth1\", 0, 0, 10, 1], [\"vth2\", 0, 0, 10, 2]]"
    let read : Table := ⟨none, [⟨"vth1", ⟨0⟩, 0, 10, 1⟩, ⟨"vth2", ⟨0⟩, 0, 10, 2⟩]⟩
    let s := Simulator.ofModules 2
    repeated.dacs ≠ [] ∧
      ((create repeated.dacs).run Simulator.detector s).result = .error (.duplicateDac "vth1") ∧
      ((ofTable repeated).run Simulator.detector s).result =
        .error (.config (.table (.duplicateName "vth1"))) ∧
      Table.ofText text = .ok read ∧
      ∃ b, ((ofTable read).run Simulator.detector s).result = .ok b ∧ b.dacs = read.dacs := by
  intro repeated text read s
  have nonempty : repeated.dacs ≠ [] := List.cons_ne_nil _ _
  have hcreate : ((create repeated.dacs).run Simulator.detector s).result =
    .error (.duplicateDac "vth1") := rfl
  have hread : Table.ofText text = .ok read := by decide +kernel
  obtain ⟨htables, htexts⟩ := ofTable_agrees_create Simulator.detector s
  exact ⟨nonempty, hcreate, ((htables repeated).2.1 nonempty "vth1").mpr hcreate, hread,
    htexts text read hread⟩

end Bank

end DacBank
