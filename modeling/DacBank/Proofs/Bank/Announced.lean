import DacBank.Bank.Request
import DacBank.Proofs.Bank.ImportSource
import DacBank.Proofs.Bank.Loops
import DacBank.Proofs.Dac.Recorded
import DacBank.Proofs.Property.Reply
import DacBank.Simulator

namespace DacBank

open Program Exchange

namespace Dac

/-- All writes are to the steps of the DAC, with values of the payload. -/
def Own (d : Dac) (payload : Payload) (t : List (Exchange Channel)) : Prop :=
  ∀ w ∈ writes t, w.1.channel = ⟨d.register, .raw⟩ ∧ w.1.value ∈ payload.values

/-- In front of each write of a value outside the bounds is a warning of the DAC that lists the
value. Its list has just the values of the payload that lie outside, in their order. -/
def Announced (d : Dac) (payload : Payload) (t : List (Exchange Channel)) : Prop :=
  ∀ before c value modules answer after, t = before ++ .wrote c value modules answer :: after →
    value < d.min ∨ d.max < value →
      ∃ outside, .reported (.outOfRange d outside) ∈ before ∧ value ∈ outside ∧
        outside = payload.values.filter fun v => v < d.min ∨ d.max < v

section
variable {d : Dac} {payload : Payload} {t u : List (Exchange Channel)} {r : Except DacError Unit}

theorem contains_eq_false_iff {value : Int32} :
    d.contains value = false ↔ value < d.min ∨ d.max < value := by
  simp only [contains, Bool.and_eq_false_iff, decide_eq_false_iff_not, Int32.not_le]

theorem outside_eq_filter (values : List Int32) :
    d.outside values = values.filter fun v => v < d.min ∨ d.max < v := by
  refine List.filter_congr fun v _ => ?_
  rw [Bool.eq_iff_iff, decide_eq_true_iff, ← contains_eq_false_iff, Bool.not_eq_true']

theorem Own.behind (quiet : writes t = []) (h : d.Own payload u) : d.Own payload (t ++ u) := by
  unfold Own
  rwa [writes_append, quiet, List.nil_append]

theorem Own.mem_values (h : d.Own payload t) {before after : List (Exchange Channel)} {c : Channel}
    {value : Int32} {modules : List Nat} {answer : Except DetectorError Unit}
    (split : t = before ++ .wrote c value modules answer :: after) : value ∈ payload.values := by
  have hmem : (⟨c, value, modules⟩, answer) ∈ writes t := by simp [split]
  exact (h _ hmem).2

/-- Where all values lie within the bounds there is nothing to announce. -/
theorem Own.announced (h : d.Own payload t)
    (within : ∀ v ∈ payload.values, d.contains v = true) : d.Announced payload t := by
  intro before c value modules answer after split houtside
  rw [← contains_eq_false_iff, within value (h.mem_values split)] at houtside
  cases houtside

/-- A warning announces all that follows it. -/
theorem Own.announced_behind_warning (h : d.Own payload t) :
    d.Announced payload (.reported (.outOfRange d (d.outside payload.values)) :: t) := by
  intro before c value modules answer after split houtside
  cases before with
  | nil => cases split
  | cons x before =>
    obtain ⟨rfl, hrest⟩ := List.cons.inj split
    refine ⟨_, List.mem_cons_self, ?_, outside_eq_filter _⟩
    rw [outside_eq_filter, List.mem_filter, decide_eq_true_iff]
    exact ⟨h.mem_values hrest, houtside⟩

theorem Announced.cons {x : Exchange Channel} (quiet : x.write? = none)
    (h : d.Announced payload t) : d.Announced payload (x :: t) := by
  intro before c value modules answer after split houtside
  cases before with
  | nil =>
    obtain ⟨rfl, _⟩ := List.cons.inj split
    cases quiet
  | cons y before =>
    obtain ⟨rfl, hrest⟩ := List.cons.inj split
    obtain ⟨outside, hmem, hvalue, hlist⟩ := h before c value modules answer after hrest houtside
    exact ⟨outside, List.mem_cons_of_mem _ hmem, hvalue, hlist⟩

theorem write_own {selector : Selector}
    (h : Recorded (d.stepProperty.write selector payload) t r) : d.Own payload t :=
  fun w hw => ⟨Property.write_channel h w hw, Property.write_value h w hw⟩

theorem setModules_announced {selector : Selector}
    (h : Recorded (d.setModules selector payload) t r) :
    d.Own payload t ∧ d.Announced payload t := by
  obtain ⟨u, rfl, hu⟩ := setModules_recorded h
  have hown : d.Own payload u := write_own hu
  refine ⟨hown.behind (writes_reported _), ?_⟩
  unfold warning
  split
  · rename_i hnone
    refine hown.announced fun v hv => ?_
    simpa [outside] using List.filter_eq_nil_iff.mp hnone v hv
  · exact hown.announced_behind_warning

end

/-- Behind the number of modules the default is written once, or nothing is. -/
def Bare (d : Dac) (t : List (Exchange Channel)) : Prop :=
  writes t = [] ∨ ∃ n answer after, writes after = [] ∧
    t = .counted n :: .wrote ⟨d.register, .raw⟩ d.default (List.range n) answer :: after

section
variable {d : Dac} {t u : List (Exchange Channel)} {r : Except DacError Unit}

theorem reset_bare (h : Recorded d.reset t r) : d.Bare t := by
  obtain ⟨n, u, rfl, hend⟩ := Property.of_select_bind h
  rcases hend with ⟨e, he, _⟩ | ⟨modules, hmodules, hu⟩
  · cases he
  obtain rfl : List.range n = modules := Except.ok.inj hmodules
  by_cases hnone : (List.range n).isEmpty
  · simp only [Property.broadcast, if_pos hnone] at hu
    obtain ⟨rfl, _⟩ := Recorded.of_report hu
    exact .inl rfl
  · simp only [Property.broadcast, if_neg hnone] at hu
    rcases hu.of_bind with ⟨_, t₁, t₂, h₁, h₂, rfl⟩ | ⟨e, h₁, _⟩
    · obtain ⟨answer, events, rfl, _⟩ := h₁.of_set
      obtain ⟨rfl, _⟩ := h₂.of_report
      exact .inr ⟨n, answer, _, by simp, rfl⟩
    · obtain ⟨answer, events, rfl, _⟩ := h₁.of_set
      exact .inr ⟨n, answer, _, by simp, rfl⟩

theorem Bare.append (h : d.Bare t) (quiet : writes u = []) : d.Bare (t ++ u) := by
  rcases h with hnone | ⟨n, answer, after, hafter, rfl⟩
  · exact .inl (by rw [writes_append, hnone, quiet]; rfl)
  · exact .inr ⟨n, answer, after ++ u, by rw [writes_append, hafter, quiet]; rfl, rfl⟩

theorem Bare.own (h : d.Bare t) : d.Own (.scalar d.default) t := by
  rcases h with hnone | ⟨n, answer, after, hafter, rfl⟩
  · unfold Own
    simp [hnone]
  · unfold Own
    simp [hafter, Payload.values]

/-- Only a default within the bounds is written as it should be. -/
theorem Bare.announced_iff (h : d.Bare t) :
    d.Announced (.scalar d.default) t ↔ writes t = [] ∨ d.contains d.default = true := by
  constructor
  · intro announced
    rcases h with hnone | ⟨n, answer, after, _, rfl⟩
    · exact .inl hnone
    by_contra hwithin
    obtain ⟨_, hout⟩ := not_or.mp hwithin
    rw [Bool.not_eq_true, contains_eq_false_iff] at hout
    obtain ⟨_, hmem, _⟩ := announced [.counted n] _ _ _ _ after rfl hout
    simp at hmem
  · rintro (hnone | hwithin)
    · intro before c value modules answer after split
      simp [split] at hnone
    · exact h.own.announced fun v hv => List.mem_singleton.mp hv ▸ hwithin

end

end Dac

namespace Bank

/-- A record in parts, one for each of some DACs and what is given to it. Behind the last part
nothing is written. -/
inductive Parts (P : Dac → Payload → List (Exchange Channel) → Prop) :
    List (Dac × Payload) → List (Exchange Channel) → Prop where
  | rest {t : List (Exchange Channel)} (quiet : writes t = []) : Parts P [] t
  | part {d : Dac} {payload : Payload} {given : List (Dac × Payload)}
      {t after : List (Exchange Channel)} (here : P d payload t) (behind : Parts P given after) :
      Parts P ((d, payload) :: given) (t ++ after)

/-- However it is answered, a program leaves parts for as many of the DACs as it came to. -/
def Divides {α : Type} (P : Dac → Payload → List (Exchange Channel) → Prop)
    (given : List (Dac × Payload)) (p : Program Channel α) : Prop :=
  ∀ t r, Recorded p t r → ∃ reached, reached <+: given ∧ Parts P reached t

section
variable {α β : Type} {P : Dac → Payload → List (Exchange Channel) → Prop}
  {given : List (Dac × Payload)} {t u : List (Exchange Channel)}

theorem Parts.append (h : Parts P given t) (quiet : writes u = []) : Parts P given (t ++ u) := by
  induction h with
  | rest still => exact .rest (by rw [writes_append, still, quiet]; rfl)
  | part here _ ih =>
    rw [List.append_assoc]
    exact .part here ih

theorem Parts.single {d : Dac} {payload : Payload} (here : P d payload t) :
    Parts P [(d, payload)] t := by
  have hpart : Parts P [(d, payload)] (t ++ []) := .part here (.rest rfl)
  rwa [List.append_nil] at hpart

theorem Divides.fail (e : DacError) : Divides P given (.fail e : Program Channel α) := by
  intro t r h
  cases h
  exact ⟨[], List.nil_prefix, .rest rfl⟩

theorem Divides.one {d : Dac} {payload : Payload} {p : Program Channel α}
    (hp : ∀ t r, Recorded p t r → P d payload t) : Divides P [(d, payload)] p :=
  fun t r h => ⟨_, List.prefix_rfl, .single (hp t r h)⟩

theorem Divides.map {p : Program Channel α} (f : α → β) (hp : Divides P given p) :
    Divides P given (f <$> p) := by
  intro t r h
  obtain ⟨r', h', _⟩ := h.of_map
  exact hp t r' h'

theorem Divides.then_report {p : Program Channel Unit} (hp : Divides P given p) (ev : Event) :
    Divides P given (p >>= fun _ => Program.report ev) := by
  intro t r h
  rcases h.of_bind with ⟨_, t₁, t₂, h₁, h₂, rfl⟩ | ⟨e, h₁, _⟩
  · obtain ⟨reached, hpre, hparts⟩ := hp _ _ h₁
    obtain ⟨rfl, _⟩ := h₂.of_report
    exact ⟨reached, hpre, hparts.append rfl⟩
  · exact hp _ _ h₁

/-- A loop leaves a part for each of its rounds. -/
theorem Divides.forM {ι : Type} (l : List ι) {f : ι → Program Channel Unit} (g : ι → Dac × Payload)
    (hf : ∀ x t r, Recorded (f x) t r → P (g x).1 (g x).2 t) :
    Divides P (l.map g) (forM l f) := by
  induction l with
  | nil =>
    intro t r h
    cases h
    exact ⟨[], List.prefix_rfl, .rest rfl⟩
  | cons x rest ih =>
    intro t r h
    rcases Recorded.of_bind (p := f x) h with ⟨_, t₁, t₂, h₁, h₂, rfl⟩ | ⟨e, h₁, _⟩
    · obtain ⟨reached, hpre, hparts⟩ := ih t₂ r h₂
      exact ⟨g x :: reached, List.cons_prefix_cons.mpr ⟨rfl, hpre⟩, .part (hf x _ _ h₁) hparts⟩
    · exact ⟨[g x], List.cons_prefix_cons.mpr ⟨rfl, List.nil_prefix⟩, .single (hf x _ _ h₁)⟩

end

theorem writeRow_announced {i : Nat} {d : Dac} {row : List Int32} {t : List (Exchange Channel)}
    {r : Except DacError Unit} (h : Recorded (writeRow i d row) t r) :
    d.Own (.perModule row) t ∧ d.Announced (.perModule row) t := by
  obtain ⟨n, u, rfl, hu⟩ := Recorded.of_moduleCount_bind h
  have hcount : writes [(.counted n : Exchange Channel)] = [] := rfl
  split at hu
  · cases hu
    have hnone : d.Own (.perModule row) [] := nofun
    exact ⟨hnone.behind hcount, Dac.Announced.cons rfl fun _ _ _ _ _ _ h => by simp at h⟩
  · obtain ⟨hown, hannounced⟩ := Dac.setModules_announced hu
    exact ⟨hown.behind hcount, hannounced.cons rfl⟩

theorem importRows_announced (b : Bank) (rows : List (List Int32)) :
    Divides (fun d payload t => d.Own payload t ∧ d.Announced payload t)
      ((b.dacs.zip rows).map fun (d, row) => (d, .perModule row)) (b.importRows rows) := by
  by_cases hlen : rows.length = b.dacs.length
  · have hcheck : b.checkRowCount rows.length = .done () := if_pos hlen
    have hrow (x : (Dac × List Int32) × Nat) (t r) (h : Recorded (writeRow x.2 x.1.1 x.1.2) t r) :
        x.1.1.Own (.perModule x.1.2) t ∧ x.1.1.Announced (.perModule x.1.2) t :=
      writeRow_announced h
    have hgiven : (b.dacs.zip rows).map (fun (d, row) => (d, Payload.perModule row)) =
        ((b.dacs.zip rows).zipIdx 0).map fun x => (x.1.1, .perModule x.1.2) := by
      conv => lhs; rw [← List.zipIdx_map_fst 0 (b.dacs.zip rows), List.map_map]
      rfl
    rw [importRows, hcheck, hgiven]
    change Divides _ _ (writeRows 0 (b.dacs.zip rows))
    rw [writeRows_eq_forM]
    exact .forM _ _ hrow
  · have hcheck : b.checkRowCount rows.length = .fail _ := if_neg hlen
    rw [importRows, hcheck]
    exact .fail _

theorem resetEach_announced (dacs : List Dac) :
    Divides (fun d payload t => d.Own payload t ∧
        (d.Announced payload t ↔ writes t = [] ∨ d.contains d.default = true))
      (dacs.map fun d => (d, .scalar d.default)) (resetEach dacs) := by
  rw [resetEach_eq_forM]
  refine .forM dacs _ fun d t r h => ?_
  have hbare : d.Bare t := by
    rcases h.of_reportFailure with ⟨_, h', _⟩ | ⟨e, u, h', rfl, _⟩
    · exact Dac.reset_bare h'
    · exact (Dac.reset_bare h').append rfl
  exact ⟨hbare.own, hbare.announced_iff⟩

/-- What a request gives to its DAC, if it writes through the DAC in steps. -/
def DacRequest.payload? (d : Dac) : DacRequest → Option Payload
  | .set payload => some payload
  | .setModules _ payload => some payload
  | .reset => some (.scalar d.default)
  | _ => none

/-- What a request gives to which DACs, if it writes through the DACs in steps. -/
def Request.given? (b : Bank) : Request → Option (List (Dac × Payload))
  | .one name q =>
    match b.find? name with
    | some d => (q.payload? d).map fun payload => [(d, payload)]
    | none => some []
  | .fromRows rows => some ((b.dacs.zip rows).map fun (d, row) => (d, .perModule row))
  | .fromMatrix m => some ((b.dacs.zip m.toRows).map fun (d, row) => (d, .perModule row))
  | .resetAll => some (b.dacs.map fun d => (d, .scalar d.default))
  | _ => none

def DacRequest.isReset : DacRequest → Bool
  | .reset => true
  | _ => false

def Request.isReset : Request → Bool
  | .one _ q => q.isReset
  | .resetAll => true
  | _ => false

theorem performOn_announced {d : Dac} {q : DacRequest} {payload : Payload}
    {t : List (Exchange Channel)} {r : Except DacError Answer} (gives : q.payload? d = some payload)
    (h : Recorded (performOn d q) t r) :
    d.Own payload t ∧
      if q.isReset then d.Announced payload t ↔ writes t = [] ∨ d.contains d.default = true
      else d.Announced payload t := by
  cases q with
  | set p | setModules selector p =>
    obtain rfl := Option.some.inj gives
    obtain ⟨r', hset, _⟩ := h.of_map
    exact Dac.setModules_announced hset
  | reset =>
    obtain rfl := Option.some.inj gives
    obtain ⟨r', hreset, _⟩ := h.of_map
    have hbare := Dac.reset_bare hreset
    exact ⟨hbare.own, hbare.announced_iff⟩
  | get | getModules | getMillivolt | setMillivolt | render | readSteps | writeSteps
  | renderSteps => cases gives

/-- However the detector answers, an operation that writes through its DACs does so DAC by DAC, each
time with values for this DAC. All of them but the resets announce the values outside the bounds
before they are written. A reset looks at no bounds, so a default that it writes is announced as it
should be only if there is nothing to announce. -/
theorem writes_announced_but_resets {σ : Type} (h : Detector Channel σ) (b : Bank) (q : Request)
    (s : σ) {given : List (Dac × Payload)} (gives : q.given? b = some given) :
    let o := (b.perform q).run h s
    ∃ reached, reached <+: given ∧
      Parts (fun d payload t => d.Own payload t ∧
        if q.isReset then d.Announced payload t ↔ writes t = [] ∨ d.contains d.default = true
        else d.Announced payload t) reached o.record := by
  intro o
  refine (?_ : Divides _ given (b.perform q)) o.record o.result (run_recorded h _ s)
  cases q with
  | toRows | toMatrix | copyMatrix | render => cases gives
  | fromRows rows =>
    obtain rfl := Option.some.inj gives
    refine .map _ ?_
    rw [fromRows_eq_importRows]
    exact (b.importRows_announced rows).then_report _
  | fromMatrix m =>
    obtain rfl := Option.some.inj gives
    refine .map _ ?_
    rw [fromMatrix_eq_importRows]
    exact (b.importRows_announced m.toRows).then_report _
  | resetAll =>
    obtain rfl := Option.some.inj gives
    exact ((resetEach_announced b.dacs).then_report _).map _
  | one name q =>
    simp only [Request.given?] at gives
    simp only [perform, get]
    cases hfind : b.find? name with
    | none => exact .fail _
    | some d =>
      rw [hfind] at gives
      obtain ⟨payload, hpayload, rfl⟩ := Option.map_eq_some_iff.mp gives
      exact .one fun t r hrun => performOn_announced hpayload hrun

/-- Two DACs share a register. Each row is announced for its own DAC. -/
theorem writes_announced_but_resets_rows :
    let d : Dac := ⟨"vth1", ⟨0⟩, 0, 10, 5⟩
    let e : Dac := ⟨"vth2", ⟨0⟩, -5, 5, 0⟩
    let b : Bank := .ofDistinct [d, e] (by decide)
    let q : Request := .fromRows [[11, -1, 11], [5, 6, -6]]
    let given := [(d, .perModule [11, -1, 11]), (e, .perModule [5, 6, -6])]
    let o := (b.perform q).run Simulator.detector (Simulator.ofModules 3)
    q.given? b = some given ∧
      (∃ reached, reached <+: given ∧
        Parts (fun d payload t => d.Own payload t ∧ d.Announced payload t) reached o.record) ∧
      o.events.filter (·.level = .warn) = [.outOfRange d [11, -1, 11], .outOfRange e [6, -6]] := by
  intro d e b q given o
  have gives : q.given? b = some given := rfl
  have hparts := writes_announced_but_resets Simulator.detector b q (Simulator.ofModules 3) gives
  exact ⟨gives, hparts, by decide⟩

/-- A reset writes a default beyond the bounds, and nothing at all is reported as a warning. -/
theorem reset_writes_unannounced :
    let d : Dac := ⟨"a", ⟨0⟩, 0, 10, 20⟩
    let b : Bank := .ofDistinct [d] (by decide)
    let o := (b.perform (.one "a" .reset)).run Simulator.detector (Simulator.ofModules 1)
    o.result = .ok .nothing ∧ writes o.record = [(⟨⟨⟨0⟩, .raw⟩, 20, [0]⟩, .ok ())] ∧
      d.max < 20 ∧ (∀ ev ∈ o.events, ev.level ≠ .warn) ∧
      ¬ d.Announced (.scalar d.default) o.record := by
  intro d b o
  refine ⟨rfl, rfl, by decide, by decide, fun announced => ?_⟩
  obtain ⟨outside, hmem, _⟩ :=
    announced [.counted 1] ⟨⟨0⟩, .raw⟩ 20 [0] (.ok ()) _ rfl (.inr (by decide))
  simp at hmem

end Bank

end DacBank
