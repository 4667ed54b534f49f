import DacBank.Bank.Session
import DacBank.Proofs.Bank.Loops
import DacBank.Proofs.Program.Recorded
import DacBank.Proofs.Program.Silence
import DacBank.Simulator

namespace DacBank

open Program

/-- The warnings about values outside the bounds, known by their sentence. -/
def Event.isOutside (ev : Event) : Bool :=
  ev.message == "writing dac value outside descriptive range"

namespace Dac

/-- The DAC with its bounds forgotten. -/
def unbounded (d : Dac) : Dac :=
  { d with min := 0, max := 0 }

theorem setModules_alike_write (d : Dac) (selector : Selector) (payload : Payload) :
    Alike Event.isOutside (d.setModules selector payload)
      (d.stepProperty.write selector payload) := by
  unfold setModules warnOutside
  split
  · exact .rfl
  · exact Alike.rfl.report_bind (beq_self_eq_true _)

theorem setModules_alike (d : Dac) (selector : Selector) (payload : Payload) :
    Alike Event.isOutside (d.unbounded.setModules selector payload)
      (d.setModules selector payload) :=
  (d.unbounded.setModules_alike_write selector payload).trans
    (d.setModules_alike_write selector payload).symm

end Dac

theorem Simulator.ofDacs_unbounded (modules : Nat) (dacs : List Dac) :
    Simulator.ofDacs modules (dacs.map Dac.unbounded) = Simulator.ofDacs modules dacs := by
  rw [ofDacs, ofDacs, defaultsOf, defaultsOf, List.foldl_map]
  rfl

namespace Bank

theorem performOn_alike (d : Dac) (q : DacRequest) :
    Alike Event.isOutside (performOn d.unbounded q) (performOn d q) := by
  cases q with
  | set payload => exact (d.setModules_alike .all payload).map _
  | setModules selector payload => exact (d.setModules_alike selector payload).map _
  -- All other operations look at the name, the register and the default only.
  | get | getModules | getMillivolt | setMillivolt | reset | render | readSteps | writeSteps
  | renderSteps => exact .rfl

theorem readRows_unbounded (cols i : Nat) (dacs : List Dac) :
    readRows cols i (dacs.map Dac.unbounded) = readRows cols i dacs := by
  simp only [readRows_eq_mapM, List.zipIdx_map, List.mapM_map]
  rfl

theorem resetEach_unbounded (dacs : List Dac) :
    resetEach (dacs.map Dac.unbounded) = resetEach dacs := by
  simp only [resetEach_eq_forM, List.forM_map]
  rfl

theorem renderEach_unbounded (dacs : List Dac) :
    renderEach (dacs.map Dac.unbounded) = renderEach dacs := by
  simp only [renderEach_eq_mapM, List.mapM_map]
  rfl

theorem writeRow_alike (i : Nat) (d : Dac) (row : List Int32) :
    Alike Event.isOutside (writeRow i d.unbounded row) (writeRow i d row) := by
  refine Alike.rfl.bind fun modules => ?_
  split
  · exact .rfl
  · exact d.setModules_alike .all (.perModule row)

theorem writeRows_alike (i : Nat) (rows : List (Dac × List Int32)) :
    Alike Event.isOutside (writeRows i (rows.map (Prod.map Dac.unbounded id)))
      (writeRows i rows) := by
  rw [writeRows_eq_forM, writeRows_eq_forM, List.zipIdx_map]
  exact .forM _ _ fun x => writeRow_alike x.2 x.1.1 x.1.2

theorem writeMatrixRows_alike (m : Matrix) (i : Nat) (dacs : List Dac) :
    Alike Event.isOutside (writeMatrixRows m i (dacs.map Dac.unbounded))
      (writeMatrixRows m i dacs) := by
  rw [writeMatrixRows_eq_forM, writeMatrixRows_eq_forM, List.zipIdx_map]
  exact .forM _ _ fun x => writeRow_alike x.2 x.1 (m.row x.2)

theorem map_name_unbounded (dacs : List Dac) :
    (dacs.map Dac.unbounded).map Dac.name = dacs.map Dac.name := by
  rw [List.map_map]
  rfl

/-- The bank with the bounds of all its DACs forgotten. -/
def unbounded (b : Bank) : Bank where
  dacs := b.dacs.map Dac.unbounded
  index := b.index
  indexed := by
    rw [map_name_unbounded]
    exact b.indexed

@[simp] theorem dacs_unbounded (b : Bank) : b.unbounded.dacs = b.dacs.map Dac.unbounded :=
  rfl

@[simp] theorem names_unbounded (b : Bank) : b.unbounded.names = b.names :=
  map_name_unbounded b.dacs

theorem get_unbounded (b : Bank) (name : String) :
    b.unbounded.get name = (b.get name).map Dac.unbounded := by
  have hfind : b.unbounded.find? name = (b.find? name).map Dac.unbounded := by
    simp only [find?_eq_bind, dacs_unbounded, List.getElem?_map, Option.map_bind]
    rfl
  rw [get, get, hfind]
  cases b.find? name <;> rfl

theorem register_unbounded (b : Bank) (d : Dac) :
    b.unbounded.register d.unbounded = (b.register d).map unbounded := by
  by_cases h : b.index.contains d.name = true
  · have hknown : b.unbounded.index.contains d.unbounded.name = true := h
    rw [register, register, dif_pos h, dif_pos hknown]
    rfl
  · have hnew : ¬ b.unbounded.index.contains d.unbounded.name = true := h
    rw [register, register, dif_neg h, dif_neg hnew]
    simp [Except.map, unbounded, Dac.unbounded]

theorem registerAll_unbounded (b : Bank) (dacs : List Dac) :
    b.unbounded.registerAll (dacs.map Dac.unbounded) = (b.registerAll dacs).map unbounded := by
  induction dacs generalizing b with
  | nil => rfl
  | cons d rest ih =>
    rw [List.map_cons, registerAll, registerAll, register_unbounded]
    cases b.register d with
    | error e => rfl
    | ok b' => exact ih b'

theorem create_unbounded (dacs : List Dac) :
    create (dacs.map Dac.unbounded) = unbounded <$> create dacs := by
  have hdacs : ofDacs (dacs.map Dac.unbounded) = (ofDacs dacs).map unbounded :=
    registerAll_unbounded empty dacs
  rw [create, create, hdacs]
  cases ofDacs dacs with
  | error e => rfl
  | ok b =>
    change Program.emit (.created b.unbounded.dacs.length) _ = _
    rw [dacs_unbounded, List.length_map]
    rfl

theorem ofTable_unbounded (t : Table) :
    ofTable (.ofDacs (t.dacs.map Dac.unbounded)) = unbounded <$> ofTable t := by
  have hvalid : (Table.ofDacs (t.dacs.map Dac.unbounded)).validate = t.validate := by
    simp only [Table.validate, Table.ofDacs, List.isEmpty_map, map_name_unbounded]
  rw [ofTable, ofTable, hvalid]
  cases t.validate with
  | error fault => rfl
  | ok => exact create_unbounded t.dacs

theorem toRows_unbounded (b : Bank) : b.unbounded.toRows = b.toRows := by
  simp only [toRows, dacs_unbounded, readRows_unbounded]

theorem toMatrix_unbounded (b : Bank) : b.unbounded.toMatrix = b.toMatrix := by
  rw [toMatrix, toMatrix, toRows_unbounded]

theorem checkRowCount_unbounded (b : Bank) (rows : Nat) :
    b.unbounded.checkRowCount rows = b.checkRowCount rows := by
  simp only [checkRowCount, dacs_unbounded, List.length_map]

theorem fromRows_alike (b : Bank) (rows : List (List Int32)) :
    Alike Event.isOutside (b.unbounded.fromRows rows) (b.fromRows rows) := by
  simp only [fromRows, checkRowCount_unbounded, dacs_unbounded, List.length_map,
    List.zip_map_left]
  exact Alike.rfl.bind fun _ => (writeRows_alike 0 (b.dacs.zip rows)).bind fun _ => .rfl

theorem fromMatrix_alike (b : Bank) (m : Matrix) :
    Alike Event.isOutside (b.unbounded.fromMatrix m) (b.fromMatrix m) := by
  simp only [fromMatrix, checkRowCount_unbounded, dacs_unbounded, List.length_map]
  exact Alike.rfl.bind fun _ => (writeMatrixRows_alike m 0 b.dacs).bind fun _ => .rfl

theorem resetAll_unbounded (b : Bank) : b.unbounded.resetAll = b.resetAll := by
  simp only [resetAll, dacs_unbounded, resetEach_unbounded, List.length_map]

theorem render_unbounded (b : Bank) : b.unbounded.render = b.render := by
  simp only [render, dacs_unbounded, renderEach_unbounded]

theorem perform_alike (b : Bank) (q : Request) :
    Alike Event.isOutside (b.unbounded.perform q) (b.perform q) := by
  cases q with
  | one name q =>
    simp only [perform, get_unbounded]
    cases b.get name with
    | error e => exact .rfl
    | ok d => exact performOn_alike d q
  | fromRows rows => exact (b.fromRows_alike rows).map _
  | fromMatrix m => exact (b.fromMatrix_alike m).map _
  | copyMatrix =>
    simp only [perform, toMatrix_unbounded]
    exact Alike.rfl.bind fun m => (b.fromMatrix_alike m).bind fun _ => .rfl
  | toRows => simp only [perform, toRows_unbounded, Alike]
  | toMatrix => simp only [perform, toMatrix_unbounded, Alike]
  | resetAll => simp only [perform, resetAll_unbounded, Alike]
  | render => simp only [perform, render_unbounded, Alike]

section
variable {σ : Type}

/-- What was served, without the warnings about values outside the bounds. -/
def Served.unwarned (x : Served σ) : Served σ :=
  { x with outcome := x.outcome.silence Event.isOutside }

def Session.unwarned (x : Session σ) : Session σ where
  opening := x.opening.silence Event.isOutside
  served := x.served.map Served.unwarned
  state := x.state

/-- By induction on the steps: alike requests leave the detector in the same state, so the next
ones meet the same answers. -/
theorem serve_unbounded (h : Detector Channel σ) (b : Bank) (steps : List (Step σ)) (s : σ) :
    (b.unbounded.serve h steps s).1.map Served.unwarned =
        (b.serve h steps s).1.map Served.unwarned ∧
      (b.unbounded.serve h steps s).2 = (b.serve h steps s).2 := by
  induction steps generalizing s with
  | nil => exact ⟨rfl, rfl⟩
  | cons step rest ih =>
    cases step with
    | outside change => exact ih (change s)
    | request q =>
      have hrun := (b.perform_alike q).run h s
      have hstate : ((b.unbounded.perform q).run h s).state = ((b.perform q).run h s).state := by
        simpa only [Outcome.silence_state] using congrArg Outcome.state hrun
      obtain ⟨hserved, hend⟩ := ih ((b.perform q).run h s).state
      simp only [serve, List.map_cons, Served.unwarned, hstate, hrun, hserved, hend, and_self]

/-- A session does not depend on the bounds of its bank, but for the warnings. -/
theorem run_unbounded (h : Detector Channel σ) (make : Program Channel Bank)
    (steps : List (Step σ)) (s : σ) :
    (Session.run h (unbounded <$> make) steps s).unwarned =
      (Session.run h make steps s).unwarned := by
  simp only [Session.run, run_map]
  cases (make.run h s).result with
  | error e => rfl
  | ok b =>
    obtain ⟨hserved, hend⟩ := b.serve_unbounded h steps (make.run h s).state
    simp only [Session.unwarned, Except.map, names_unbounded, hserved, hend]

/-- Two tables that differ in bounds only, of whatever values, and one detector with whatever
answers: in every session the same calls are made in the same order, each request has the same
outcome, the detector is left in the same state, and the records are the same once the warnings
about values outside the bounds are taken out. Nor does a simulated detector depend on the bounds of
the table it is made from. -/
theorem bounds_only_warn (h : Detector Channel σ) {t t' : Table}
    (same : t.dacs.map Dac.unbounded = t'.dacs.map Dac.unbounded) (steps : List (Step σ)) (s : σ) :
    (Session.run h (create t.dacs) steps s).unwarned =
        (Session.run h (create t'.dacs) steps s).unwarned ∧
      (Session.run h (ofTable t) steps s).unwarned =
        (Session.run h (ofTable t') steps s).unwarned ∧
      ∀ modules, Simulator.ofDacs modules t.dacs = Simulator.ofDacs modules t'.dacs := by
  refine ⟨?_, ?_, fun modules => ?_⟩
  · rw [← run_unbounded h (create t.dacs), ← run_unbounded h (create t'.dacs),
      ← create_unbounded, ← create_unbounded, same]
  · rw [← run_unbounded h (ofTable t), ← run_unbounded h (ofTable t'),
      ← ofTable_unbounded, ← ofTable_unbounded, same]
  · rw [← Simulator.ofDacs_unbounded modules t.dacs, same, Simulator.ofDacs_unbounded]

/-- A value is written that lies within the bounds of one table and outside the inverted ones of the
other; then a module fails. -/
theorem bounds_only_warn_inverted :
    let t : Table := .ofDacs [⟨"vth1", ⟨0⟩, 0, 4000, 1200⟩, ⟨"vth2", ⟨1⟩, 0, 4000, 1000⟩]
    let t' : Table := .ofDacs [⟨"vth1", ⟨0⟩, 10, -10, 1200⟩, ⟨"vth2", ⟨1⟩, 0, 0, 1000⟩]
    let steps : List (Step Simulator) := [.request (.one "vth1" (.set (.scalar 1500))),
      .outside (·.failModule (some 1)), .request .resetAll]
    let session := fun x : Table =>
      Session.run Simulator.detector (create x.dacs) steps (Simulator.ofDacs 2 t.dacs)
    let warnings := fun x =>
      (recordOf (session x).served).countP fun x => x.isHidden Event.isOutside
    t.dacs.map Dac.unbounded = t'.dacs.map Dac.unbounded ∧
      (session t).unwarned = (session t').unwarned ∧ warnings t = 0 ∧ warnings t' = 1 := by
  intro t t' steps session warnings
  have same : t.dacs.map Dac.unbounded = t'.dacs.map Dac.unbounded := rfl
  have hsessions := bounds_only_warn Simulator.detector same steps (Simulator.ofDacs 2 t.dacs)
  exact ⟨same, hsessions.1, by decide, by decide⟩

end

end Bank

end DacBank
