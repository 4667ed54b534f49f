import DacBank.Proofs.Simulator.Run

namespace DacBank.Simulator

/-- A read by a call, whether it succeeds or not. -/
def Action.isRead : Action → Bool
  | .read .. => true
  | _ => false

/-- Whether an action is a write that succeeds. -/
def accepts (s : Simulator) : Action → Bool
  | .write c value modules => (s.write c value modules).result.isOk
  | _ => false

/-- How many writes of a run succeed. -/
def accepted (s : Simulator) : List Action → Nat
  | [] => 0
  | a :: rest => (if s.accepts a then 1 else 0) + (s.step a).accepted rest

section
variable {s : Simulator}

theorem budget_ne_zero_of_accepts {a : Action} (h : s.accepts a = true) : s.budget ≠ some 0 := by
  cases a with
  | write c value modules =>
    rcases write_cases s c value modules with ⟨raw, _, _, _, hb, _⟩ | ⟨e, hw⟩
    · exact hb
    · rw [accepts, hw] at h
      cases h
  | read c modules | change c => cases h

theorem budget_step {a : Action} (h : ∀ left, a ≠ .change (.budget left)) :
    (s.step a).budget = if s.accepts a then s.budget.map (· - 1) else s.budget := by
  cases a with
  | read c modules => rfl
  | write c value modules =>
    rcases write_cases s c value modules with ⟨raw, _, _, _, _, hw⟩ | ⟨e, hw⟩
    all_goals simp only [step, accepts, hw]
    all_goals rfl
  | change c =>
    cases c with
    | budget left => exact absurd rfl (h left)
    | modules count | failing module | counters => rfl

/-- Each call is counted once, a write only if it succeeds. -/
theorem counters_step {a : Action} (h : a ≠ .change .counters) :
    (s.step a).writes = s.writes + (if s.accepts a then 1 else 0) ∧
      (s.step a).reads = s.reads + if a.isRead then 1 else 0 := by
  cases a with
  | read c modules => exact ⟨rfl, rfl⟩
  | write c value modules =>
    rcases write_cases s c value modules with ⟨raw, _, _, _, _, hw⟩ | ⟨e, hw⟩
    all_goals simp only [step, accepts, hw]
    all_goals exact ⟨rfl, rfl⟩
  | change c =>
    cases c with
    | counters => exact absurd rfl h
    | modules count | failing module | budget left => exact ⟨rfl, rfl⟩

end

/-- By induction on the actions: each accepted write takes one from the budget, and none is accepted
once the budget is spent. -/
theorem budget_run {s : Simulator} {b : Nat} {actions : List Action} (hb : s.budget = some b)
    (kept : ∀ left, .change (.budget left) ∉ actions) :
    (s.run actions).budget = some (b - s.accepted actions) ∧ s.accepted actions ≤ b := by
  induction actions generalizing s b with
  | nil => exact ⟨hb, Nat.zero_le b⟩
  | cons a rest ih =>
    have hstep := budget_step (s := s) fun left ha => kept left (ha ▸ List.mem_cons_self)
    have hkept : ∀ left, .change (.budget left) ∉ rest :=
      fun left h => kept left (List.mem_cons_of_mem _ h)
    rw [hb] at hstep
    change ((s.step a).run rest).budget = _ ∧ _
    rw [accepted]
    by_cases ha : s.accepts a = true
    · rw [if_pos ha, Option.map_some] at hstep
      have hpos : b ≠ 0 := by
        intro h
        exact budget_ne_zero_of_accepts ha (h ▸ hb)
      obtain ⟨hbudget, hle⟩ := ih hstep hkept
      rw [hbudget, if_pos ha]
      exact ⟨congrArg some (by omega), by omega⟩
    · rw [if_neg ha] at hstep ⊢
      rw [Nat.zero_add]
      exact ih hstep hkept

theorem counters_run {s : Simulator} {actions : List Action}
    (kept : .change .counters ∉ actions) :
    (s.run actions).writes = s.writes + s.accepted actions ∧
      (s.run actions).reads = s.reads + actions.countP Action.isRead := by
  induction actions generalizing s with
  | nil => exact ⟨rfl, rfl⟩
  | cons a rest ih =>
    obtain ⟨ha, hrest⟩ := not_or.mp (mt List.mem_cons.mpr kept)
    obtain ⟨hwrites, hreads⟩ := counters_step (s := s) (Ne.symm ha)
    obtain ⟨hwrites', hreads'⟩ := ih (s := s.step a) hrest
    change ((s.step a).run rest).writes = _ ∧ ((s.step a).run rest).reads = _
    rw [hwrites', hreads', hwrites, hreads, accepted, List.countP_cons]
    omega

/-- The counters of a new detector are at zero, and so are those that were just set back. -/
theorem Setup.counters_zero (u : Setup) {before : List Action}
    (h : before = [] ∨ before.getLast? = some (.change .counters)) :
    (u.start.run before).writes = 0 ∧ (u.start.run before).reads = 0 := by
  rcases h with rfl | hlast
  · obtain ⟨modules, known, converter⟩ := u
    cases known <;> exact ⟨rfl, rfl⟩
  · obtain ⟨earlier, rfl⟩ := List.getLast?_eq_some_iff.mp hlast
    rw [run_append]
    exact ⟨rfl, rfl⟩

/-- Along every run in which the budget of writes is not set anew, what is left of it is what it was
less the writes that succeeded so far, and there are never more of them than it allows. The next
write then fails for the first check that refuses it, and changes nothing; or it passes the checks,
and fails for want of budget exactly if all writes that were allowed have succeeded. Along every run
of a new detector the counters tell how many writes have succeeded and how many reads were asked
for, since they were last set back or else since the start. -/
theorem run_tallies_writes :
    (∀ (s : Simulator) (b : Nat) (actions : List Action),
      (∀ left, .change (.budget left) ∉ actions) →
      let start := s.failAfterWrites (some b)
      let s' := start.run actions
      let successes := start.accepted actions
      s'.budget = some (b - successes) ∧ successes ≤ b ∧
      ∀ c value modules,
        (∀ e, s'.screen c value modules = .error e →
          s'.write c value modules = ⟨.error e, [], s'⟩) ∧
        ∀ raw, s'.screen c value modules = .ok raw →
          (s'.write c value modules).result =
            if successes = b then .error .timeout else .ok ()) ∧
    ∀ (u : Setup) (before after : List Action),
      (before = [] ∨ before.getLast? = some (.change .counters)) →
      .change .counters ∉ after →
      let s' := u.start.run (before ++ after)
      s'.writes = (u.start.run before).accepted after ∧
        s'.reads = after.countP Action.isRead := by
  constructor
  · intro s b actions kept start s' successes
    obtain ⟨hbudget, hle⟩ := budget_run (s := start) rfl kept
    refine ⟨hbudget, hle, ?_⟩
    intro c value modules
    refine ⟨fun e => write_of_screen_error, ?_⟩
    intro raw hscreen
    have hspent : s'.budget = some 0 ↔ successes = b := by
      rw [hbudget, Option.some.injEq]
      omega
    rw [write_of_screen_ok hscreen]
    simp only [hspent]
  · intro u before after hbefore kept s'
    obtain ⟨hwrites, hreads⟩ := u.counters_zero hbefore
    have hrun : s' = (u.start.run before).run after := run_append ..
    obtain ⟨hwrites', hreads'⟩ := counters_run (s := u.start.run before) kept
    rw [hrun, hwrites', hreads', hwrites, hreads, Nat.zero_add, Nat.zero_add]
    exact ⟨rfl, rfl⟩

/-- Two of five writes get through, the others fail for a missing module, a voltage and a failing
module; then the budget is spent. Of two reads after the counters were set back one fails. -/
theorem run_tallies_writes_spent :
    let c : Channel := ⟨⟨6⟩, .raw⟩
    let actions : List Action := [.write c 1 [5], .write ⟨⟨6⟩, .millivolt⟩ 9000 [0],
      .write c 3 [0, 1], .change (.modules 1), .change (.failing (some 0)), .write c 4 [0],
      .change (.failing none), .write ⟨⟨6⟩, .millivolt⟩ 2048 [0]]
    let start := (ofModules 2).failAfterWrites (some 2)
    let s' := start.run actions
    let u : Setup := ⟨2, none, .mythen3⟩
    let before : List Action := [.read c [0], .write c 1 [0], .change .counters]
    let after : List Action := [.read c [0], .write c 1 [5], .read c [5], .write c 1 [1]]
    (∀ left, .change (.budget left) ∉ actions) ∧ start.accepted actions = 2 ∧
      s'.budget = some 0 ∧ (s'.write c 5 [0]).result = .error .timeout ∧
      (s'.write c 5 [1]).result = .error (.module 1 "no such module (detector has 1)") ∧
      before.getLast? = some (.change .counters) ∧ .change .counters ∉ after ∧
      (u.start.run (before ++ after)).writes = 1 ∧
      (u.start.run (before ++ after)).reads = 2 := by
  intro c actions start s' u before after
  obtain ⟨hbudgets, hcounters⟩ := run_tallies_writes
  have kept : ∀ left, .change (.budget left) ∉ actions := by simp [actions]
  have hsuccesses : start.accepted actions = 2 := by decide +kernel
  obtain ⟨hbudget, _, hnext⟩ := hbudgets (ofModules 2) 2 actions kept
  have hlast : before.getLast? = some (.change .counters) := rfl
  have hafter : .change .counters ∉ after := by simp [after]
  obtain ⟨hwrites, hreads⟩ := hcounters u before after (.inr hlast) hafter
  have hpasses : s'.screen c 5 [0] = .ok 5 := by decide +kernel
  have hmissing : s'.screen c 5 [1] =
    .error (.module 1 "no such module (detector has 1)") := by decide +kernel
  refine ⟨kept, hsuccesses, ?_, ?_, ?_, hlast, hafter, hwrites, hreads⟩
  · rw [hbudget, hsuccesses]
  · rw [(hnext c 5 [0]).2 5 hpasses, if_pos hsuccesses]
  · rw [(hnext c 5 [1]).1 _ hmissing]

end DacBank.Simulator
