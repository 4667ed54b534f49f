import DacBank.Bank.Session
import DacBank.Proofs.Bank.Loops
import DacBank.Proofs.Dac.Recorded
import DacBank.Proofs.Property.Convention
import DacBank.Simulator

namespace DacBank.Bank

open Program Exchange

/-- Only the two operations in millivolts leave the unit of the steps. -/
def DacRequest.unit : DacRequest → MeasureUnit
  | .getMillivolt => .millivolt
  | .setMillivolt _ => .millivolt
  | _ => .raw

def Request.unit : Request → MeasureUnit
  | .one _ q => q.unit
  | _ => .raw

/-- The DACs that a request is for, in the order of their turns. A matrix is copied by reading all
DACs and then writing all of them. -/
def Request.dacs (b : Bank) : Request → List Dac
  | .one name _ => (b.find? name).toList
  | .copyMatrix => b.dacs ++ b.dacs
  | _ => b.dacs

/-- A record in which some DACs have their turns. A turn is an operation on its DAC, and all its
calls address this DAC in the given unit. Between the turns nothing is read or written. -/
inductive Turns (unit : MeasureUnit) : List Dac → List (Exchange Channel) → Prop where
  | quiet {t : List (Exchange Channel)} (still : accesses t = []) : Turns unit [] t
  | turn {d : Dac} {rest : List Dac} {before t after : List (Exchange Channel)} {q : DacRequest}
      {r : Except DacError Answer} (still : accesses before = []) (asked : q.unit = unit)
      (made : Recorded (performOn d q) t r)
      (addressed : ∀ a ∈ accesses t, a.1 = ⟨d.register, unit⟩)
      (tail : Turns unit rest after) : Turns unit (d :: rest) (before ++ t ++ after)

/-- As many of the DACs as the operation came to have had their turns, and all of them if it
succeeded. -/
def Visits {α : Type} (unit : MeasureUnit) (dacs : List Dac) (t : List (Exchange Channel))
    (r : Except DacError α) : Prop :=
  ∃ visited, visited <+: dacs ∧ Turns unit visited t ∧ ∀ a, r = .ok a → visited = dacs

/-- However it is answered, a program is made of turns of these DACs. -/
def Serves {α : Type} (unit : MeasureUnit) (dacs : List Dac) (p : Program Channel α) : Prop :=
  ∀ t r, Recorded p t r → Visits unit dacs t r

variable {unit : MeasureUnit}

theorem Turns.behind {dacs : List Dac} {t u : List (Exchange Channel)} (ht : accesses t = [])
    (h : Turns unit dacs u) : Turns unit dacs (t ++ u) := by
  cases h with
  | quiet still => exact .quiet (by rw [accesses_append, ht, still, List.append_nil])
  | turn still asked made addressed tail =>
    rw [← List.append_assoc, ← List.append_assoc]
    exact .turn (by rw [accesses_append, ht, still, List.append_nil]) asked made addressed tail

theorem Turns.append {first rest : List Dac} {t u : List (Exchange Channel)}
    (h : Turns unit first t) (h' : Turns unit rest u) : Turns unit (first ++ rest) (t ++ u) := by
  induction h with
  | quiet still => exact h'.behind still
  | turn still asked made addressed _ ih =>
    rw [List.append_assoc]
    exact .turn still asked made addressed ih

theorem performOn_asked {d : Dac} {q : DacRequest} {t : List (Exchange Channel)}
    {r : Except DacError Answer} (h : Recorded (performOn d q) t r) :
    ∃ events : List Event, ∃ u, t = events.map .reported ++ u ∧
      Property.Asked ⟨d.register, q.unit⟩ u := by
  cases q with
  | get | getModules selector | getMillivolt | readSteps selector =>
    obtain ⟨_, hread, _⟩ := h.of_map
    exact ⟨[], t, rfl, Property.read_asked hread⟩
  | set payload | setModules selector payload =>
    obtain ⟨_, hset, _⟩ := h.of_map
    obtain ⟨u, rfl, hwrite⟩ := Dac.setModules_recorded hset
    exact ⟨d.warning payload, u, rfl, Property.write_asked hwrite⟩
  | setMillivolt payload | reset | writeSteps selector payload =>
    obtain ⟨_, hwrite, _⟩ := h.of_map
    exact ⟨[], t, rfl, Property.write_asked hwrite⟩
  | render | renderSteps selector =>
    obtain ⟨_, hrender, _⟩ := h.of_map
    exact ⟨[], t, rfl, Property.render_asked hrender⟩

theorem Turns.conventional {dacs : List Dac} {t : List (Exchange Channel)}
    (h : Turns unit dacs t) : Conventional t := by
  induction h with
  | quiet still => exact conventional_of_quiet still
  | turn still _ made _ _ ih =>
    obtain ⟨events, u, rfl, hu⟩ := performOn_asked made
    have hturn := (conventional_of_quiet (accesses_reported events)).append hu.conventional
    exact ((conventional_of_quiet still).append hturn).append ih

section
variable {α β : Type}

theorem Serves.done (a : α) : Serves unit [] (.done a : Program Channel α) := by
  intro t r h
  cases h
  exact ⟨[], List.prefix_rfl, .quiet rfl, fun _ _ => rfl⟩

/-- Who fails need not come to any of its DACs. -/
theorem Serves.fail (dacs : List Dac) (e : DacError) :
    Serves unit dacs (.fail e : Program Channel α) := by
  intro t r h
  cases h
  exact ⟨[], List.nil_prefix, .quiet rfl, fun _ hr => by cases hr⟩

theorem Serves.moduleCount : Serves unit [] (Program.moduleCount : Program Channel Nat) := by
  intro t r h
  obtain ⟨n, rfl, _⟩ := h.of_moduleCount
  exact ⟨[], List.prefix_rfl, .quiet rfl, fun _ _ => rfl⟩

theorem Serves.report (ev : Event) : Serves unit [] (Program.report ev : Program Channel Unit) := by
  intro t r h
  obtain ⟨rfl, _⟩ := h.of_report
  exact ⟨[], List.prefix_rfl, .quiet rfl, fun _ _ => rfl⟩

theorem Serves.bind {first rest : List Dac} {p : Program Channel α} {f : α → Program Channel β}
    (hp : Serves unit first p) (hf : ∀ a, Serves unit rest (f a)) :
    Serves unit (first ++ rest) (p >>= f) := by
  intro t r h
  rcases h.of_bind with ⟨a, t₁, t₂, h₁, h₂, rfl⟩ | ⟨e, h₁, rfl⟩
  · obtain ⟨visited, _, hturns, hall⟩ := hp _ _ h₁
    obtain rfl := hall a rfl
    obtain ⟨later, hpre, hturns', hall'⟩ := hf a _ _ h₂
    refine ⟨visited ++ later, (List.prefix_append_right_inj visited).mpr hpre,
      hturns.append hturns', fun b hb => ?_⟩
    rw [hall' b hb]
  · obtain ⟨visited, hpre, hturns, _⟩ := hp _ _ h₁
    exact ⟨visited, hpre.trans (List.prefix_append ..), hturns, fun _ hr => by cases hr⟩

theorem Serves.map {dacs : List Dac} {p : Program Channel α} (f : α → β)
    (hp : Serves unit dacs p) : Serves unit dacs (f <$> p) := by
  intro t r h
  obtain ⟨r', h', rfl⟩ := h.of_map
  obtain ⟨visited, hpre, hturns, hall⟩ := hp _ _ h'
  refine ⟨visited, hpre, hturns, fun b hb => ?_⟩
  cases r' with
  | ok a => exact hall a rfl
  | error e => cases hb

/-- A loop over anything that names a DAC for each of its rounds. -/
theorem Serves.mapM {ι : Type} (l : List ι) {f : ι → Program Channel α} (dac : ι → Dac)
    (hf : ∀ x, Serves unit [dac x] (f x)) :
    Serves unit (l.map dac) (l.mapM f) := by
  induction l with
  | nil => exact .done []
  | cons x rest ih =>
    rw [List.mapM_cons]
    exact (hf x).bind fun a => ih.map (a :: ·)

theorem Serves.forM {ι : Type} (l : List ι) {f : ι → Program Channel Unit} (dac : ι → Dac)
    (hf : ∀ x, Serves unit [dac x] (f x)) :
    Serves unit (l.map dac) (forM l f) := by
  induction l with
  | nil => exact .done ()
  | cons x rest ih => exact (hf x).bind fun _ => ih

theorem Serves.reportFailure {dacs : List Dac} {p : Program Channel α}
    (hp : Serves unit dacs p) (event : DacError → Event) :
    Serves unit dacs (p.reportFailure event) := by
  intro t r h
  rcases h.of_reportFailure with ⟨a, h', rfl⟩ | ⟨e, u, h', rfl, rfl⟩
  · exact hp _ _ h'
  · obtain ⟨visited, hpre, hturns, _⟩ := hp _ _ h'
    have hend : Turns unit [] [.reported (event e)] := .quiet rfl
    refine ⟨visited, hpre, ?_, fun _ hr => by cases hr⟩
    simpa using hturns.append hend

end

theorem performOn_serves (d : Dac) (q : DacRequest) : Serves q.unit [d] (performOn d q) := by
  intro t r h
  have hchannel : ∀ a ∈ accesses t, a.1 = ⟨d.register, q.unit⟩ := by
    obtain ⟨events, u, rfl, hu⟩ := performOn_asked h
    intro a ha
    exact hu.channel a (by simpa using ha)
  have hturn : Turns q.unit [d] ([] ++ t ++ []) := .turn rfl rfl h hchannel (.quiet rfl)
  exact ⟨[d], List.prefix_rfl, by simpa using hturn, fun _ _ => rfl⟩

/-- An operation on a DAC is its request, but for the form of the answer. -/
theorem serves_of_performOn {α : Type} {d : Dac} {q : DacRequest} {p : Program Channel α}
    {f : α → Answer} (h : performOn d q = f <$> p) : Serves q.unit [d] p := by
  intro t r hp
  have hmap : Recorded (performOn d q) t (r.map f) := by
    rw [h]
    exact hp.map f
  obtain ⟨visited, hpre, hturns, hall⟩ := performOn_serves d q _ _ hmap
  refine ⟨visited, hpre, hturns, fun a ha => hall (f a) ?_⟩
  rw [ha]
  rfl

theorem readRow_serves (cols i : Nat) (d : Dac) : Serves .raw [d] (readRow cols i d) := by
  have hget : Serves .raw [d] d.get := serves_of_performOn (q := .get) rfl
  refine (hget.bind fun row => ?_ : Serves .raw ([d] ++ []) _)
  split
  · exact .fail [] _
  · exact .done row

theorem readRows_serves (cols i : Nat) (dacs : List Dac) :
    Serves .raw dacs (readRows cols i dacs) := by
  have hrows := Serves.mapM (dacs.zipIdx i) Prod.fst fun x => readRow_serves cols x.2 x.1
  rwa [List.zipIdx_map_fst, ← readRows_eq_mapM] at hrows

theorem writeRow_serves (i : Nat) (d : Dac) (row : List Int32) :
    Serves .raw [d] (writeRow i d row) := by
  refine Serves.moduleCount.bind fun modules => ?_
  split
  · exact .fail [d] _
  · exact serves_of_performOn (q := .set (.perModule row)) rfl

theorem writeRows_serves (i : Nat) (rows : List (Dac × List Int32)) :
    Serves .raw (rows.map Prod.fst) (writeRows i rows) := by
  have hrows := Serves.forM (rows.zipIdx i) (fun x => x.1.1)
    fun x => writeRow_serves x.2 x.1.1 x.1.2
  have hdacs : (rows.zipIdx i).map (fun x => x.1.1) = rows.map Prod.fst := by
    conv => rhs; rw [← List.zipIdx_map_fst i rows, List.map_map]
    rfl
  rwa [hdacs, ← writeRows_eq_forM] at hrows

theorem writeMatrixRows_serves (m : Matrix) (i : Nat) (dacs : List Dac) :
    Serves .raw dacs (writeMatrixRows m i dacs) := by
  have hrows := Serves.forM (dacs.zipIdx i) Prod.fst fun x => writeRow_serves x.2 x.1 (m.row x.2)
  rwa [List.zipIdx_map_fst, ← writeMatrixRows_eq_forM] at hrows

theorem resetEach_serves (dacs : List Dac) : Serves .raw dacs (resetEach dacs) := by
  have hreset (d : Dac) : Serves .raw [d] d.reset := serves_of_performOn (q := .reset) rfl
  have hall := Serves.forM dacs id fun d => (hreset d).reportFailure (.resetAborted d.name)
  rwa [List.map_id, ← resetEach_eq_forM] at hall

theorem renderEach_serves (dacs : List Dac) : Serves .raw dacs (renderEach dacs) := by
  have hrender (d : Dac) : Serves .raw [d] d.render := serves_of_performOn (q := .render) rfl
  have hall := Serves.mapM dacs id hrender
  rwa [List.map_id, ← renderEach_eq_mapM] at hall

theorem toRows_serves (b : Bank) : Serves .raw b.dacs b.toRows :=
  Serves.moduleCount.bind fun cols => readRows_serves cols 0 b.dacs

theorem toMatrix_serves (b : Bank) : Serves .raw b.dacs b.toMatrix := by
  have hrows : Serves .raw (b.dacs ++ []) b.toMatrix := by
    refine b.toRows_serves.bind fun rows => ?_
    cases rows with
    | nil => exact Serves.moduleCount.bind fun cols => .done _
    | cons row rest => exact .done _
  rwa [List.append_nil] at hrows

theorem checkRowCount_serves (b : Bank) (rows : Nat) : Serves .raw [] (b.checkRowCount rows) := by
  unfold checkRowCount
  split
  · exact .done ()
  · exact .fail [] _

theorem fromRows_serves (b : Bank) (rows : List (List Int32)) :
    Serves .raw b.dacs (b.fromRows rows) := by
  by_cases hlen : rows.length = b.dacs.length
  · have hdacs : (b.dacs.zip rows).map Prod.fst = b.dacs := List.map_fst_zip (Nat.le_of_eq hlen.symm)
    have hrows := (writeRows_serves 0 (b.dacs.zip rows)).bind
      fun _ => Serves.report (.imported .rows b.dacs.length)
    rw [hdacs, List.append_nil] at hrows
    exact (b.checkRowCount_serves rows.length).bind fun _ => hrows
  · have hcheck : b.checkRowCount rows.length = .fail _ := if_neg hlen
    rw [fromRows, hcheck]
    exact .fail b.dacs _

theorem fromMatrix_serves (b : Bank) (m : Matrix) : Serves .raw b.dacs (b.fromMatrix m) := by
  have hrows := (writeMatrixRows_serves m 0 b.dacs).bind
    fun _ => Serves.report (.imported .matrix b.dacs.length)
  rw [List.append_nil] at hrows
  exact (b.checkRowCount_serves m.rows).bind fun _ => hrows

theorem perform_serves (b : Bank) (q : Request) : Serves q.unit (q.dacs b) (b.perform q) := by
  cases q with
  | one name q =>
    simp only [perform, get, Request.dacs]
    cases b.find? name with
    | none => exact .fail _ _
    | some d => exact performOn_serves d q
  | toRows => exact b.toRows_serves.map Answer.rows
  | toMatrix => exact b.toMatrix_serves.map Answer.matrix
  | fromRows rows => exact (b.fromRows_serves rows).map _
  | fromMatrix m => exact (b.fromMatrix_serves m).map _
  | copyMatrix => exact b.toMatrix_serves.bind fun m => (b.fromMatrix_serves m).map _
  | resetAll =>
    have hall := (resetEach_serves b.dacs).bind fun _ => Serves.report (.allReset b.dacs.length)
    rw [List.append_nil] at hall
    exact hall.map _
  | render =>
    exact ((renderEach_serves b.dacs).map fun lines =>
      String.intercalate "\n" (Row.header :: lines)).map Answer.text

/-- In every session with any detector, each read and each write names at least one module, in
ascending order, and only modules below the number that the detector told last. It is made in the
turn of a DAC, whose register it addresses, and in millivolts exactly for the two operations in
millivolts. -/
theorem session_keeps_convention {σ : Type} (h : Detector Channel σ) (b : Bank)
    (steps : List (Step σ)) (s : σ) :
    let served := (b.serve h steps s).1
    Conventional (recordOf served) ∧
      ∀ x ∈ served,
        Visits x.request.unit (x.request.dacs b) x.outcome.record x.outcome.result := by
  induction steps generalizing s with
  | nil => exact ⟨conventional_of_quiet rfl, fun x hx => by cases hx⟩
  | cons step rest ih =>
    cases step with
    | outside change => exact ih (change s)
    | request q =>
      let o := (b.perform q).run h s
      have hvisits : Visits q.unit (q.dacs b) o.record o.result :=
        b.perform_serves q _ _ (run_recorded h _ s)
      have ⟨visited, _, hturns, _⟩ := hvisits
      obtain ⟨hrest, hserved⟩ := ih o.state
      refine ⟨hturns.conventional.append hrest, fun x hx => ?_⟩
      rcases List.mem_cons.mp hx with rfl | hx
      · exact hvisits
      · exact hserved x hx

/-- Modules are selected in any order and twice; then the detector loses modules, and the second DAC
is written in millivolts. -/
theorem session_keeps_convention_shrunk :
    let b : Bank :=
      .ofDistinct [⟨"vth1", ⟨0⟩, 0, 4000, 1200⟩, ⟨"vth2", ⟨1⟩, 0, 4000, 1000⟩] (by decide)
    let steps : List (Step Simulator) :=
      [.request (.one "vth1" (.setModules (.modules [2, 0, 2]) (.scalar 5))),
        .outside (·.setModuleCount 1), .request (.one "vth2" (.setMillivolt (.perModule [700])))]
    let served := (b.serve Simulator.detector steps (Simulator.ofModules 3)).1
    accesses (recordOf served) = [(⟨⟨0⟩, .raw⟩, [0, 2]), (⟨⟨1⟩, .millivolt⟩, [0])] ∧
      Conventional (recordOf served) := by
  intro b steps served
  have hkept := b.session_keeps_convention Simulator.detector steps (Simulator.ofModules 3)
  exact ⟨by decide, hkept.1⟩

end DacBank.Bank
