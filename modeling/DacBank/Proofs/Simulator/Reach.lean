import DacBank.Proofs.Property.Progress
import DacBank.Proofs.Simulator.Access
import DacBank.Proofs.Simulator.Batch

namespace DacBank

theorem Property.countP_accepted {χ : Type} (ws : List (WriteCall χ)) :
    (accepted ws).countP (·.2.isOk) = ws.length := by
  rw [accepted, List.countP_map]
  exact List.countP_eq_length.mpr fun _ _ => rfl

/-- Where a list of wanted writes was stopped is told by the number of those that were accepted. -/
theorem Property.Progress.issued {χ : Type} {wanted : List (WriteCall χ)} {t : List (Exchange χ)}
    {made : Nat} {e : DetectorError}
    (h : Progress wanted t (if made = wanted.length then .ok () else .error (.communication e)))
    (counted : (Exchange.writes t).countP (·.2.isOk) = made) :
    Exchange.writes t =
      accepted (wanted.take made) ++ wanted[made]?.toList.map fun w => (w, .error e) := by
  generalize hr : (if made = wanted.length then .ok () else .error (.communication e) :
    Except DacError Unit) = r at h
  cases h with
  | finished all =>
    have hall : made = wanted.length := by
      by_contra hne
      rw [if_neg hne] at hr
      cases hr
    rw [all, hall, List.take_length, List.getElem?_eq_none (Nat.le_refl _)]
    simp
  | refused before w after split issued last =>
    have hmade : made = before.length := by
      rw [← counted, issued, List.countP_append, countP_accepted]
      rfl
    have hne : made ≠ wanted.length := by simp [hmade, split]
    rw [if_neg hne] at hr
    cases hr
    rw [issued, hmade, split]
    simp

namespace Simulator

section
variable {α : Type}

/-- No program changes the number of modules, so it is told the same number each time. -/
theorem counts_run (p : Program Channel α) (s : Simulator) :
    ∀ n ∈ Exchange.counts (p.run detector s).record, n = s.modules := by
  induction p generalizing s with
  | done a | fail e => simp [Program.run]
  | count next ih =>
    intro n hn
    rcases List.mem_cons.mp hn with rfl | hn
    · rfl
    · exact ih s.modules s n hn
  | read c modules next ih =>
    intro n hn
    have hn' : n ∈ Exchange.counts ((next (s.read c modules).result).run detector
        (s.read c modules).state).record := by simpa [Program.run, Outcome.after] using hn
    exact ih _ (s.read c modules).state n hn'
  | write c value modules next ih =>
    intro n hn
    have hn' : n ∈ Exchange.counts ((next (s.write c value modules).result).run detector
        (s.write c value modules).state).record := by simpa [Program.run, Outcome.after] using hn
    exact (ih _ _ n hn').trans (carry_sameSetting s ⟨c, value, modules⟩).modules
  | emit ev next ih => exact ih s

/-- The counter of writes counts those that are answered well. -/
theorem writes_run (p : Program Channel α) (s : Simulator) :
    (p.run detector s).state.writes =
      s.writes + (Exchange.writes (p.run detector s).record).countP (·.2.isOk) := by
  induction p generalizing s with
  | done a | fail e => rfl
  | count next ih => exact ih s.modules s
  | read c modules next ih =>
    refine (ih (s.read c modules).result (s.read c modules).state).trans ?_
    simp [Program.run, Outcome.after, read]
  | write c value modules next ih =>
    have hrest := ih (s.write c value modules).result (s.write c value modules).state
    rcases write_cases s c value modules with ⟨raw, _, _, _, _, hw⟩ | ⟨e, hw⟩
    all_goals simp only [hw] at hrest
    all_goals simp [Program.run, Outcome.after, hw, hrest, Except.isOk, Except.toBool]
    simp [store]
    omega
  | emit ev next ih => exact ih s

end

/-- The values of register `q` once a write in steps is made. -/
def lay (q : Register) (values : List Int32) (w : WriteCall Channel) : List Int32 :=
  if w.channel.register = q then ModuleValues.setAll w.value w.modules values else values

theorem getElem?_lay (q : Register) (values : List Int32) (w : WriteCall Channel) (m : Nat) :
    (lay q values w)[m]? = values[m]?.map fun old => leave q m old w := by
  unfold lay leave
  by_cases hq : w.channel.register = q
  · rw [if_pos hq, ModuleValues.getElem?_setAll]
    by_cases hm : m < values.length
    · by_cases hmem : m ∈ w.modules <;> simp [hq, hm, hmem]
    · simp [hm]
  · simp [hq]

theorem getElem?_foldl_lay (q : Register) (ws : List (WriteCall Channel)) (values : List Int32)
    (m : Nat) : (ws.foldl (lay q) values)[m]? = values[m]?.map (ws.foldl (leave q m)) := by
  induction ws generalizing values with
  | nil => simp
  | cons w ws ih =>
    rw [List.foldl_cons, ih, getElem?_lay, Option.map_map]
    rfl

theorem getElem?_values (s : Simulator) (q : Register) (m : Nat) :
    (s.values q)[m]? = if m < s.modules then some (s.rawValue q m) else none := by
  by_cases hm : m < s.modules <;> simp [values, hm]

section
variable {s : Simulator} {w : WriteCall Channel} {ws : List (WriteCall Channel)}

/-- After a whole batch a register holds what its writes made of its values, one after the other. -/
theorem values_writeAll (hraw : ∀ w ∈ ws, w.channel.unit = .raw)
    (h : (s.writeAll ws).1 = .ok ()) (q : Register) :
    (s.writeAll ws).2.values q = ws.foldl (lay q) (s.values q) := by
  apply List.ext_getElem?
  intro m
  rw [getElem?_foldl_lay, getElem?_values, getElem?_values, (writeAll_sameSetting s ws).modules]
  by_cases hm : m < s.modules
  · rw [if_pos hm, if_pos hm, rawValue_writeAll hraw h q hm]
    rfl
  · rw [if_neg hm, if_neg hm]
    rfl

/-- A write that is made is counted and taken from the budget. What is stored apart, it changes
nothing else. -/
theorem state_carry (h : (s.carry w).result = .ok ()) :
    (s.carry w).state =
      { s with
        stored := (s.carry w).state.stored
        budget := s.budget.map (· - 1)
        writes := s.writes + 1 } := by
  rcases write_cases s w.channel w.value w.modules with ⟨raw, _, _, _, _, hw⟩ | ⟨e, hw⟩
  · rw [carry, hw]
    rfl
  · rw [carry, hw] at h
    cases h

theorem state_writeAll (h : (s.writeAll ws).1 = .ok ()) :
    (s.writeAll ws).2 =
      { s with
        stored := (s.writeAll ws).2.stored
        budget := s.budget.map (· - ws.length)
        writes := s.writes + ws.length } := by
  induction ws generalizing s with
  | nil =>
    have hsame : s.budget.map (· - 0) = s.budget := by cases s.budget <;> rfl
    rw [List.length_nil, hsame]
    rfl
  | cons w ws ih =>
    cases hc : (s.carry w).result with
    | ok =>
      rw [writeAll_cons_ok hc] at h ⊢
      rw [ih h, state_carry hc]
      simp [Option.map_map, Function.comp_def, Nat.sub_sub, Nat.add_comm, Nat.add_left_comm]
    | error e =>
      rw [writeAll_cons_error hc] at h
      cases h

end

/-- How many of some writes the budget allows. -/
def affordable (s : Simulator) (writes : Nat) : Nat :=
  min writes (s.budget.getD writes)

theorem affordable_le (s : Simulator) (writes : Nat) : s.affordable writes ≤ writes :=
  Nat.min_le_left ..

theorem affords_affordable (s : Simulator) (writes : Nat) : s.Affords (s.affordable writes) := by
  intro left hleft
  rw [affordable, hleft]
  exact Nat.min_le_right ..

theorem affordable_eq_iff {s : Simulator} {writes : Nat} :
    s.affordable writes = writes ↔ s.Affords writes := by
  unfold affordable Affords
  cases s.budget with
  | none => simp
  | some left =>
    simp only [Option.getD_some, Option.some.injEq, forall_eq']
    omega

theorem budget_of_affordable_lt {s : Simulator} {writes : Nat}
    (short : s.affordable writes < writes) : s.budget = some (s.affordable writes) := by
  unfold affordable at short ⊢
  cases hb : s.budget with
  | none =>
    rw [hb, Option.getD_none, Nat.min_self] at short
    exact absurd short (Nat.lt_irrefl _)
  | some left =>
    rw [hb, Option.getD_some] at short
    rw [Option.getD_some]
    exact congrArg some (by omega)

/-- What a write is refused for once some writes were made: a check, or there is no write left. -/
inductive Refuses (s : Simulator) (made : Nat) (w : WriteCall Channel) : DetectorError → Prop where
  | check {e : DetectorError} (screened : s.screen w.channel w.value w.modules = .error e) :
      Refuses s made w e
  | spent (takes : s.Takes w) (left : s.budget = some made) : Refuses s made w .timeout

/-- An outcome in which the first writes of a batch are made. If there are more, the next one is
refused with `e`, and nothing is done after it. -/
structure Reaches (s : Simulator) (ws : List (WriteCall Channel)) (made : Nat) (e : DetectorError)
    (o : Outcome Channel Simulator Unit) : Prop where
  le : made ≤ ws.length
  result : o.result = if made = ws.length then .ok () else .error (.communication e)
  issued : Exchange.writes o.record =
    Property.accepted (ws.take made) ++ ws[made]?.toList.map fun w => (w, .error e)
  values : ∀ r, o.state.values r = (ws.take made).foldl (lay r) (s.values r)
  state : o.state =
    { s with
      stored := o.state.stored
      budget := s.budget.map (· - made)
      writes := s.writes + made }

section
variable {s : Simulator} {w : WriteCall Channel} {ws : List (WriteCall Channel)}
  {e : DetectorError} {made : Nat}

theorem carry_error (h : (s.carry w).result = .error e) : s.carry w = ⟨.error e, [], s⟩ := by
  rcases write_cases s w.channel w.value w.modules with ⟨raw, _, _, _, _, hw⟩ | ⟨e', hw⟩
  · rw [carry, hw] at h
    cases h
  · rw [carry, hw] at h ⊢
    cases h
    rfl

/-- The writes made before have changed no check, and left what they did not take of the budget. -/
theorem Refuses.carry (h : s.Refuses ws.length w e) (made : (s.writeAll ws).1 = .ok ()) :
    ((s.writeAll ws).2.carry w).result = .error e := by
  have hsetting := writeAll_sameSetting s ws
  cases h with
  | check screened =>
    rw [Simulator.carry, write_of_screen_error ((hsetting.screen ..).trans screened)]
  | spent takes left =>
    obtain ⟨raw, hscreen⟩ := takes_iff_screen.mp (hsetting.takes_iff.mpr takes)
    have hbudget : (s.writeAll ws).2.budget = some 0 := by
      rw [state_writeAll made, left]
      simp
    rw [Simulator.carry, write_of_screen_ok hscreen, if_pos hbudget]

theorem writeAll_refused (made : (s.writeAll ws).1 = .ok ()) (h : s.Refuses ws.length w e)
    (others : List (WriteCall Channel)) :
    s.writeAll (ws ++ w :: others) = (.error e, (s.writeAll ws).2) := by
  have hcarry := h.carry made
  rw [writeAll_append, made]
  simp only
  rw [writeAll_cons_error hcarry, carry_error hcarry]

theorem writeAll_first (le : made ≤ ws.length) (first : ∀ w ∈ ws.take made, s.Takes w)
    (left : s.Affords made) : (s.writeAll (ws.take made)).1 = .ok () := by
  refine writeAll_ok_iff.mpr ⟨first, ?_⟩
  rwa [List.length_take_of_le le]

/-- By what the writes of a batch are refused for, how far it comes. -/
theorem writeAll_eq (le : made ≤ ws.length) (first : ∀ w ∈ ws.take made, s.Takes w)
    (left : s.Affords made) (next : ∀ w, ws[made]? = some w → s.Refuses made w e) :
    s.writeAll ws =
      (if made = ws.length then .ok () else .error e, (s.writeAll (ws.take made)).2) := by
  have hfirst := writeAll_first le first left
  by_cases hall : made = ws.length
  · rw [if_pos hall, hall, List.take_length]
    rw [hall, List.take_length] at hfirst
    exact Prod.ext hfirst rfl
  · have hlt : made < ws.length := Nat.lt_of_le_of_ne le hall
    have hsplit : ws = ws.take made ++ ws[made] :: ws.drop (made + 1) := by
      rw [List.getElem_cons_drop, List.take_append_drop]
    have hnext : s.Refuses (ws.take made).length ws[made] e := by
      rw [List.length_take_of_le le]
      exact next ws[made] (List.getElem?_eq_getElem hlt)
    rw [if_neg hall]
    conv => lhs; rw [hsplit]
    exact writeAll_refused hfirst hnext _

/-- A program that carries out a batch comes as far as the batch does. -/
theorem Carries.reaches {p : Program Channel Unit} (hp : s.Carries p ws)
    (progress : Property.Progress ws (p.run detector s).record (p.run detector s).result)
    (raw : ∀ w ∈ ws, w.channel.unit = .raw) (le : made ≤ ws.length)
    (first : ∀ w ∈ ws.take made, s.Takes w) (left : s.Affords made)
    (next : ∀ w, ws[made]? = some w → s.Refuses made w e) :
    s.Reaches ws made e (p.run detector s) := by
  have hfirst := writeAll_first le first left
  have hraw : ∀ w ∈ ws.take made, w.channel.unit = .raw :=
    fun w hw => raw w (List.mem_of_mem_take hw)
  have hends := writeAll_eq le first left next
  have hresult : (p.run detector s).result =
      if made = ws.length then .ok () else .error (.communication e) := by
    refine (congrArg Prod.fst hp).trans ?_
    rw [hends]
    split <;> rfl
  have hstate : (p.run detector s).state = (s.writeAll (ws.take made)).2 := by
    rw [hp.state, hends]
  have hmade := state_writeAll hfirst
  rw [List.length_take_of_le le, ← hstate] at hmade
  have hcounted : (Exchange.writes (p.run detector s).record).countP (·.2.isOk) = made := by
    have hwrites : (p.run detector s).state.writes = s.writes + made := by rw [hmade]
    have hrun := writes_run p s
    omega
  have hvalues (r : Register) : (p.run detector s).state.values r =
      (ws.take made).foldl (lay r) (s.values r) := by
    rw [hstate, values_writeAll hraw hfirst]
  rw [hresult] at progress
  exact ⟨le, hresult, progress.issued hcounted, hvalues, hmade⟩

/-- The writes that are answered well are those in front of the end. -/
theorem Reaches.countP_writes {o : Outcome Channel Simulator Unit} (h : s.Reaches ws made e o) :
    (Exchange.writes o.record).countP (·.2.isOk) = made := by
  have hrefused : (ws[made]?.toList.map fun w =>
      (w, (.error e : Except DetectorError Unit))).countP (·.2.isOk) = 0 := by
    rw [List.countP_map]
    exact List.countP_eq_zero.mpr fun _ _ => nofun
  rw [h.issued, List.countP_append, Property.countP_accepted, hrefused,
    List.length_take_of_le h.le, Nat.add_zero]

theorem Reaches.then_report {p : Program Channel Unit} (h : s.Reaches ws made e (p.run detector s))
    (ev : Event) : s.Reaches ws made e ((p >>= fun _ => Program.report ev).run detector s) := by
  have hending := Program.ending_then_report detector p ev s
  obtain ⟨hresult, hstate⟩ := Prod.mk.inj hending
  have hwrites : Exchange.writes ((p >>= fun _ => Program.report ev).run detector s).record =
      Exchange.writes (p.run detector s).record := by
    cases hp : (p.run detector s).result with
    | ok =>
      rw [Program.run_bind_ok hp]
      simp [Program.report, Program.run, Outcome.after]
    | error e => rw [Program.run_bind_error hp]
  exact ⟨h.le, hresult.trans h.result, hwrites.trans h.issued, hstate ▸ h.values, hstate ▸ h.state⟩

end

end Simulator

end DacBank
