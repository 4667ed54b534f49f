import DacBank.Bank.Request
import DacBank.Proofs.Bank.Loops
import DacBank.Proofs.Program.FailFast
import DacBank.Script
import DacBank.Simulator

namespace DacBank

open Program Exchange

namespace Dac

theorem warnOutside_failsFast (d : Dac) (payload : Payload) :
    FailsFast (d.warnOutside payload) := by
  unfold warnOutside
  split
  · exact .done ()
  · exact .report _

theorem setModules_failsFast (d : Dac) (selector : Selector) (payload : Payload) :
    FailsFast (d.setModules selector payload) :=
  (d.warnOutside_failsFast payload).bind fun _ => d.stepProperty.write_failsFast selector payload

end Dac

namespace Bank

theorem performOn_failsFast (d : Dac) (q : DacRequest) : FailsFast (performOn d q) := by
  cases q with
  | get => exact (d.stepProperty.read_failsFast .all).map _
  | getModules selector | readSteps selector =>
    exact (d.stepProperty.read_failsFast selector).map _
  | getMillivolt => exact (d.millivoltProperty.read_failsFast .all).map _
  | set payload => exact (d.setModules_failsFast .all payload).map _
  | setModules selector payload => exact (d.setModules_failsFast selector payload).map _
  | setMillivolt payload => exact (d.millivoltProperty.write_failsFast .all payload).map _
  | reset => exact (d.stepProperty.write_failsFast .all _).map _
  | writeSteps selector payload => exact (d.stepProperty.write_failsFast selector payload).map _
  | render => exact (d.stepProperty.render_failsFast .all).map _
  | renderSteps selector => exact (d.stepProperty.render_failsFast selector).map _

theorem readRow_failsFast (cols i : Nat) (d : Dac) : FailsFast (readRow cols i d) := by
  refine (d.stepProperty.read_failsFast .all).bind fun row => ?_
  split
  · exact .fail fun _ he => by cases he
  · exact .done row

theorem readRows_failsFast (cols i : Nat) (dacs : List Dac) :
    FailsFast (readRows cols i dacs) := by
  rw [readRows_eq_mapM]
  exact .mapM (dacs.zipIdx i) fun x => readRow_failsFast cols x.2 x.1

theorem writeRow_failsFast (i : Nat) (d : Dac) (row : List Int32) :
    FailsFast (writeRow i d row) := by
  refine FailsFast.moduleCount.bind fun modules => ?_
  split
  · exact .fail fun _ he => by cases he
  · exact d.setModules_failsFast .all _

theorem writeRows_failsFast (i : Nat) (rows : List (Dac × List Int32)) :
    FailsFast (writeRows i rows) := by
  rw [writeRows_eq_forM]
  exact .forM (rows.zipIdx i) fun x => writeRow_failsFast x.2 x.1.1 x.1.2

theorem writeMatrixRows_failsFast (m : Matrix) (i : Nat) (dacs : List Dac) :
    FailsFast (writeMatrixRows m i dacs) := by
  rw [writeMatrixRows_eq_forM]
  exact .forM (dacs.zipIdx i) fun x => writeRow_failsFast x.2 x.1 (m.row x.2)

theorem resetEach_failsFast (dacs : List Dac) : FailsFast (resetEach dacs) := by
  rw [resetEach_eq_forM]
  exact .forM dacs fun d => (d.stepProperty.write_failsFast .all _).reportFailure _

theorem renderEach_failsFast (dacs : List Dac) : FailsFast (renderEach dacs) := by
  rw [renderEach_eq_mapM]
  exact .mapM dacs fun d => d.stepProperty.render_failsFast .all

theorem toRows_failsFast (b : Bank) : FailsFast b.toRows :=
  FailsFast.moduleCount.bind fun cols => readRows_failsFast cols 0 b.dacs

theorem toMatrix_failsFast (b : Bank) : FailsFast b.toMatrix := by
  refine b.toRows_failsFast.bind fun rows => ?_
  cases rows with
  | nil => exact FailsFast.moduleCount.bind fun cols => .done _
  | cons row rest => exact .done _

theorem checkRowCount_failsFast (b : Bank) (rows : Nat) : FailsFast (b.checkRowCount rows) := by
  unfold checkRowCount
  split
  · exact .done ()
  · exact .fail fun _ he => by cases he

theorem fromRows_failsFast (b : Bank) (rows : List (List Int32)) : FailsFast (b.fromRows rows) :=
  (b.checkRowCount_failsFast rows.length).bind fun _ =>
    (writeRows_failsFast 0 (b.dacs.zip rows)).bind fun _ => .report _

theorem fromMatrix_failsFast (b : Bank) (m : Matrix) : FailsFast (b.fromMatrix m) :=
  (b.checkRowCount_failsFast m.rows).bind fun _ =>
    (writeMatrixRows_failsFast m 0 b.dacs).bind fun _ => .report _

theorem get_ne_communication (b : Bank) (name : String) (e : DetectorError) :
    b.get name ≠ .error (.communication e) := by
  rw [get]
  split <;> exact fun h => by cases h

theorem perform_failsFast (b : Bank) (q : Request) : FailsFast (b.perform q) := by
  cases q with
  | one name q =>
    exact (FailsFast.ofExcept (b.get_ne_communication name)).bind fun d => performOn_failsFast d q
  | toRows => exact b.toRows_failsFast.map _
  | toMatrix => exact b.toMatrix_failsFast.map _
  | fromRows rows => exact (b.fromRows_failsFast rows).map _
  | fromMatrix m => exact (b.fromMatrix_failsFast m).map _
  | copyMatrix =>
    exact b.toMatrix_failsFast.bind fun m =>
      (b.fromMatrix_failsFast m).bind fun _ => .done Answer.nothing
  | resetAll => exact ((resetEach_failsFast b.dacs).bind fun _ => .report _).map _
  | render => exact ((renderEach_failsFast b.dacs).map _).map _

/-- However the detector answers, the first call that goes wrong ends the request: no call of any
kind comes behind it, and the request fails with the error of this call. No request fails with an
error of the detector otherwise. -/
theorem perform_stops_at_failure {σ : Type} (h : Detector Channel σ) (b : Bank) (q : Request)
    (s : σ) :
    let o := (b.perform q).run h s
    (∀ before x after e, calls o.record = before ++ x :: after → x.failure? = some e →
      after = [] ∧ o.result = .error (.communication e)) ∧
    ∀ e, o.result = .error (.communication e) →
      ∃ x, (calls o.record).getLast? = some x ∧ x.failure? = some e := by
  intro o
  have hprompt : Prompt o.record o.result := b.perform_failsFast q _ _ (run_recorded h _ s)
  refine ⟨fun before x after e hsplit hx => hprompt.failure_is_last hsplit hx, fun e he => ?_⟩
  rw [he] at hprompt
  exact hprompt.error_is_failure

/-- The second of three DACs is read with one value too few. -/
theorem perform_stops_at_short_reply :
    let b : Bank := .ofDistinct [⟨"vth1", ⟨0⟩, 0, 4000, 1200⟩, ⟨"vth2", ⟨1⟩, 0, 4000, 1000⟩,
      ⟨"vth3", ⟨2⟩, 0, 4000, 1000⟩] (by decide)
    let script : Script := ⟨[.pass, .answer (.ok [7])], [], []⟩
    let o := (b.perform .toMatrix).run (Script.detector Simulator.detector)
      (script, Simulator.ofModules 2)
    calls o.record =
        [.counted 2, .counted 2, .read ⟨⟨0⟩, .raw⟩ [0, 1] (.ok [0, 0]), .counted 2] ++
          .read ⟨⟨1⟩, .raw⟩ [0, 1] (.ok [7]) :: [] ∧
      o.result = .error (.communication (.invalidResponse 2 1)) := by
  intro b script o
  have hcalls : calls o.record =
      [.counted 2, .counted 2, .read ⟨⟨0⟩, .raw⟩ [0, 1] (.ok [0, 0]), .counted 2] ++
        .read ⟨⟨1⟩, .raw⟩ [0, 1] (.ok [7]) :: [] := rfl
  have hstop := (perform_stops_at_failure (Script.detector Simulator.detector) b .toMatrix
    (script, Simulator.ofModules 2)).1 _ _ _ (.invalidResponse 2 1) hcalls rfl
  exact ⟨hcalls, hstop.2⟩

end Bank

end DacBank
