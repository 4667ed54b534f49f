import DacBank.Proofs.Bank.Loops
import DacBank.Proofs.Bank.Moves
import DacBank.Proofs.Simulator.Reads

namespace DacBank.Bank

open Program Simulator

def DacRequest.isRead : DacRequest → Bool
  | .get => true
  | .getModules _ => true
  | .getMillivolt => true
  | .render => true
  | .readSteps _ => true
  | .renderSteps _ => true
  | _ => false

def Request.isRead : Request → Bool
  | .one _ q => q.isRead
  | .toRows => true
  | .toMatrix => true
  | .render => true
  | _ => false

theorem performOn_readsOnly (d : Dac) {q : DacRequest} (h : q.isRead = true) :
    (performOn d q).ReadsOnly := by
  cases q with
  | get => exact (d.stepProperty.read_readsOnly .all).map _
  | getModules selector | readSteps selector => exact (d.stepProperty.read_readsOnly selector).map _
  | getMillivolt => exact (d.millivoltProperty.read_readsOnly .all).map _
  | render => exact (d.stepProperty.render_readsOnly .all).map _
  | renderSteps selector => exact (d.stepProperty.render_readsOnly selector).map _
  | set | setModules | setMillivolt | reset | writeSteps => cases h

theorem readRow_readsOnly (cols i : Nat) (d : Dac) : (readRow cols i d).ReadsOnly := by
  refine (d.stepProperty.read_readsOnly .all).bind fun row => ?_
  split <;> trivial

theorem toRows_readsOnly (b : Bank) : b.toRows.ReadsOnly := by
  refine ReadsOnly.moduleCount.bind fun cols => ?_
  rw [readRows_eq_mapM]
  exact .mapM (b.dacs.zipIdx 0) fun x => readRow_readsOnly cols x.2 x.1

theorem toMatrix_readsOnly (b : Bank) : b.toMatrix.ReadsOnly := by
  refine b.toRows_readsOnly.bind fun rows => ?_
  cases rows with
  | nil => exact ReadsOnly.moduleCount.bind fun _ => trivial
  | cons row rest => trivial

theorem render_readsOnly (b : Bank) : b.render.ReadsOnly := by
  rw [render, renderEach_eq_mapM]
  exact (ReadsOnly.mapM b.dacs fun d => d.stepProperty.render_readsOnly .all).bind fun _ => trivial

theorem perform_readsOnly (b : Bank) {q : Request} (h : q.isRead = true) :
    (b.perform q).ReadsOnly := by
  cases q with
  | one name q => exact (ReadsOnly.ofExcept (b.get name)).bind fun d => performOn_readsOnly d h
  | toRows => exact b.toRows_readsOnly.map _
  | toMatrix => exact b.toMatrix_readsOnly.map _
  | render => exact b.render_readsOnly.map _
  | fromRows | fromMatrix | copyMatrix | resetAll => cases h

/-- A move of a session that stays, or a read that is left out. -/
inductive Mark where
  | kept (m : Move)
  | dropped (q : Request) (read : q.isRead = true)

namespace Mark

def step : Mark → Step Simulator
  | .kept m => m.step
  | .dropped q _ => .request q

def kept? : Mark → Option (Step Simulator)
  | .kept m => some m.step
  | .dropped .. => none

end Mark

/-- Of all that was served in a session, what was served to the requests that stay. -/
def servedKept : List Mark → List (Served Simulator) → List (Served Simulator)
  | .kept (.request _) :: marks, x :: served => x :: servedKept marks served
  | .dropped .. :: marks, _ :: served => servedKept marks served
  | .kept (.direct _) :: marks, served => servedKept marks served
  | _, _ => []

/-- A request and what came of it, but for the detector it left: the result, and the calls and
events in their order. -/
def Served.told {σ : Type} (x : Served σ) :
    Request × Except DacError Answer × List (Exchange Channel) :=
  (x.request, x.outcome.result, x.outcome.record)

/-- By induction on the session: a read that is left out adds to the difference of the counters, and
whatever stays goes on in both. -/
theorem serve_afterReads (b : Bank) (marks : List Mark) (s : Simulator) (more : Nat) :
    let whole := b.serve detector (marks.map Mark.step) (s.afterReads more)
    let short := b.serve detector (marks.filterMap Mark.kept?) s
    (servedKept marks whole.1).map Served.told = short.1.map Served.told ∧
      ∃ more', whole.2 = short.2.afterReads more' := by
  induction marks generalizing s more with
  | nil => exact ⟨rfl, more, rfl⟩
  | cons x rest ih =>
    cases x with
    | dropped q read =>
      obtain ⟨further, hstate⟩ := state_of_readsOnly (b.perform_readsOnly read) (s.afterReads more)
      rw [afterReads_add] at hstate
      have hrest := ih s (more + further)
      rw [← hstate] at hrest
      exact hrest
    | kept m =>
      cases m with
      | direct a =>
        obtain ⟨still, hstep⟩ := s.afterReads_step more a
        have hrest := ih (s.step a) still
        rw [← hstep] at hrest
        exact hrest
      | request q =>
        have hrun := run_afterReads (b.perform q) s more
        obtain ⟨hserved, hend⟩ := ih ((b.perform q).run detector s).state more
        simp only [List.map_cons, List.filterMap_cons, Mark.step, Mark.kept?, Move.step, serve,
          hrun, servedKept, Served.told, hserved]
        exact ⟨trivial, hend⟩

/-- Any reads may be left out of a session, whether they succeed or fail: every other request has
the same result and leaves the same record, with all its calls and events, and in the end the
detector is the same but for its counter of reads. -/
theorem reads_leave_no_trace (b : Bank) (marks : List Mark) (s : Simulator) :
    let whole := b.serve detector (marks.map Mark.step) s
    let short := b.serve detector (marks.filterMap Mark.kept?) s
    (servedKept marks whole.1).map Served.told = short.1.map Served.told ∧
      (∀ r, whole.2.values r = short.2.values r) ∧ whole.2.writes = short.2.writes ∧
      whole.2.budget = short.2.budget ∧ ∃ more, whole.2 = short.2.afterReads more := by
  intro whole short
  obtain ⟨hserved, more, hend⟩ := b.serve_afterReads marks s 0
  have hend : whole.2 = short.2.afterReads more := hend
  rw [hend]
  exact ⟨hserved, fun _ => rfl, rfl, rfl, more, rfl⟩

/-- Two reads before a write, of which the first fails, are seen in the counter and nowhere else. -/
example :
    let b : Bank := .ofDistinct [⟨"vth1", ⟨0⟩, 0, 4000, 1200⟩] (by decide)
    let marks : List Mark := [.kept (.direct (.change (.failing (some 1)))),
      .dropped (.one "vth1" .get) rfl, .kept (.direct (.change (.failing none))),
      .dropped .toMatrix rfl, .kept (.request (.one "vth1" (.set (.scalar 7))))]
    let whole := b.serve detector (marks.map Mark.step) (Simulator.ofModules 2)
    let short := b.serve detector (marks.filterMap Mark.kept?) (Simulator.ofModules 2)
    (whole.1.length, short.1.length) = (3, 1) ∧ (whole.2.reads, short.2.reads) = (2, 0) ∧
      whole.2.values ⟨0⟩ = [7, 7] := by
  decide +kernel

end DacBank.Bank
