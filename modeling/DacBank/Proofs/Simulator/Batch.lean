import DacBank.Proofs.Program.Ending
import DacBank.Proofs.Program.Recorded
import DacBank.Proofs.Simulator.Run

namespace DacBank.Simulator

/-- A write passes every check that comes before the budget. -/
structure Takes (s : Simulator) (w : WriteCall Channel) : Prop where
  modules : s.checkModules w.modules = .ok ()
  register : s.checkRegister w.channel.register = .ok ()
  value : ∃ raw, s.absorb w.channel.unit w.value = .ok raw

/-- There are at least this many writes left. -/
def Affords (s : Simulator) (writes : Nat) : Prop :=
  ∀ left, s.budget = some left → writes ≤ left

theorem takes_iff_screen {s : Simulator} {w : WriteCall Channel} :
    s.Takes w ↔ ∃ raw, s.screen w.channel w.value w.modules = .ok raw := by
  simp only [screen_ok_iff]
  constructor
  · rintro ⟨hm, hr, raw, ha⟩
    exact ⟨raw, hm, hr, ha⟩
  · rintro ⟨raw, hm, hr, ha⟩
    exact ⟨hm, hr, raw, ha⟩

theorem SameSetting.takes_iff {s s' : Simulator} (h : SameSetting s s') {w : WriteCall Channel} :
    s'.Takes w ↔ s.Takes w := by
  rw [takes_iff_screen, takes_iff_screen, h.screen]

def carry (s : Simulator) (w : WriteCall Channel) : Reply Simulator Unit :=
  s.write w.channel w.value w.modules

theorem carry_sameSetting (s : Simulator) (w : WriteCall Channel) :
    SameSetting s (s.carry w).state := by
  rcases write_cases s w.channel w.value w.modules with ⟨raw, _, _, _, _, hw⟩ | ⟨e, hw⟩
  · rw [carry, hw]
    exact ⟨⟨rfl, rfl, rfl⟩, rfl, rfl⟩
  · rw [carry, hw]
    exact .refl s

theorem carry_of_takes {s : Simulator} {w : WriteCall Channel} (h : s.Takes w)
    (hb : s.budget ≠ some 0) : (s.carry w).result = .ok () := by
  obtain ⟨raw, hscreen⟩ := takes_iff_screen.mp h
  rw [carry, write_of_screen_ok hscreen, if_neg hb]

theorem carry_ok_iff {s : Simulator} {w : WriteCall Channel} :
    (s.carry w).result = .ok () ↔ s.Takes w ∧ s.budget ≠ some 0 := by
  refine ⟨fun h => ?_, fun h => carry_of_takes h.1 h.2⟩
  rcases write_cases s w.channel w.value w.modules with ⟨raw, hm, hr, ha, hb, _⟩ | ⟨e, hw⟩
  · exact ⟨⟨hm, hr, raw, ha⟩, hb⟩
  · rw [carry, hw] at h
    cases h

theorem budget_carry {s : Simulator} {w : WriteCall Channel} (h : (s.carry w).result = .ok ()) :
    (s.carry w).state.budget = s.budget.map (· - 1) := by
  rcases write_cases s w.channel w.value w.modules with ⟨raw, _, _, _, _, hw⟩ | ⟨e, hw⟩
  · rw [carry, hw]
    rfl
  · rw [carry, hw] at h
    cases h

/-- What a module of register `q` holds once a write in steps is made. -/
def leave (q : Register) (m : Nat) (old : Int32) (w : WriteCall Channel) : Int32 :=
  if w.channel.register = q ∧ m ∈ w.modules then w.value else old

theorem rawValue_carry {s : Simulator} {w : WriteCall Channel} (hraw : w.channel.unit = .raw)
    (h : (s.carry w).result = .ok ()) (q : Register) {m : Nat} (hm : m < s.modules) :
    (s.carry w).state.rawValue q m = leave q m (s.rawValue q m) w := by
  rcases write_cases s w.channel w.value w.modules with ⟨raw, _, _, ha, _, hw⟩ | ⟨e, hw⟩
  · rw [hraw] at ha
    cases ha
    rw [carry, hw]
    exact rawValue_store w.channel.register q w.value w.modules hm
  · rw [carry, hw] at h
    cases h

def writeAll (s : Simulator) : List (WriteCall Channel) → Except DetectorError Unit × Simulator
  | [] => (.ok (), s)
  | w :: rest =>
    match (s.carry w).result with
    | .ok () => (s.carry w).state.writeAll rest
    | .error e => (.error e, (s.carry w).state)

section
variable {s : Simulator} {w : WriteCall Channel} {ws : List (WriteCall Channel)}

theorem writeAll_cons_ok (h : (s.carry w).result = .ok ()) :
    s.writeAll (w :: ws) = (s.carry w).state.writeAll ws := by
  rw [writeAll, h]

theorem writeAll_cons_error {e : DetectorError} (h : (s.carry w).result = .error e) :
    s.writeAll (w :: ws) = (.error e, (s.carry w).state) := by
  rw [writeAll, h]

theorem writeAll_append (ws vs : List (WriteCall Channel)) :
    s.writeAll (ws ++ vs) =
      match (s.writeAll ws).1 with
      | .ok () => (s.writeAll ws).2.writeAll vs
      | .error e => (.error e, (s.writeAll ws).2) := by
  induction ws generalizing s with
  | nil => rfl
  | cons w ws ih =>
    rw [List.cons_append]
    cases h : (s.carry w).result with
    | ok => rw [writeAll_cons_ok h, writeAll_cons_ok h, ih]
    | error e => rw [writeAll_cons_error h, writeAll_cons_error h]

theorem writeAll_sameSetting (s : Simulator) (ws : List (WriteCall Channel)) :
    SameSetting s (s.writeAll ws).2 := by
  induction ws generalizing s with
  | nil => exact .refl s
  | cons w ws ih =>
    cases h : (s.carry w).result with
    | ok =>
      rw [writeAll_cons_ok h]
      exact (carry_sameSetting s w).trans (ih _)
    | error e =>
      rw [writeAll_cons_error h]
      exact carry_sameSetting s w

/-- By induction on the writes: each leaves the checks of the others as they are and takes one from
the budget. -/
theorem writeAll_ok_iff :
    (s.writeAll ws).1 = .ok () ↔ (∀ w ∈ ws, s.Takes w) ∧ s.Affords ws.length := by
  induction ws generalizing s with
  | nil => simp [writeAll, Affords]
  | cons w ws ih =>
    have hbudget : s.Affords (ws.length + 1) ↔
        s.budget ≠ some 0 ∧ ∀ left, s.budget.map (· - 1) = some left → ws.length ≤ left := by
      unfold Affords
      cases s.budget with
      | none => simp
      | some left =>
        simp only [Option.some.injEq, forall_eq', ne_eq, Option.map_some]
        omega
    rw [List.forall_mem_cons, List.length_cons, hbudget]
    cases h : (s.carry w).result with
    | ok =>
      obtain ⟨htakes, hsome⟩ := carry_ok_iff.mp h
      rw [writeAll_cons_ok h, ih, Affords, budget_carry h]
      simp only [(carry_sameSetting s w).takes_iff, htakes, hsome, true_and, ne_eq,
        not_false_eq_true]
    | error e =>
      rw [writeAll_cons_error h]
      constructor
      · intro hok
        cases hok
      · rintro ⟨⟨htakes, _⟩, hsome, _⟩
        rw [carry_of_takes htakes hsome] at h
        cases h

/-- After a whole batch each module holds the last value written to it, or still its own. -/
theorem rawValue_writeAll (hraw : ∀ w ∈ ws, w.channel.unit = .raw)
    (h : (s.writeAll ws).1 = .ok ()) (q : Register) {m : Nat} (hm : m < s.modules) :
    (s.writeAll ws).2.rawValue q m = ws.foldl (leave q m) (s.rawValue q m) := by
  induction ws generalizing s with
  | nil => rfl
  | cons w ws ih =>
    obtain ⟨hw, hws⟩ := List.forall_mem_cons.mp hraw
    cases hc : (s.carry w).result with
    | ok =>
      have hm' : m < (s.carry w).state.modules := (carry_sameSetting s w).modules ▸ hm
      rw [writeAll_cons_ok hc] at h ⊢
      rw [ih hws h hm', rawValue_carry hw hc q hm, List.foldl_cons]
    | error e =>
      rw [writeAll_cons_error hc] at h
      cases h

/-- Writes that agree on the value of a module give it this value, unless there is none of them. -/
theorem foldl_leave {q : Register} {m : Nat} {old value : Int32}
    (agree : ∀ w ∈ ws, w.channel.register = q → m ∈ w.modules → w.value = value)
    (given : old = value ∨ ∃ w ∈ ws, w.channel.register = q ∧ m ∈ w.modules) :
    ws.foldl (leave q m) old = value := by
  induction ws generalizing old with
  | nil => simpa using given
  | cons w ws ih =>
    obtain ⟨hw, hws⟩ := List.forall_mem_cons.mp agree
    rw [List.foldl_cons]
    refine ih hws ?_
    by_cases hat : w.channel.register = q ∧ m ∈ w.modules
    · rw [leave, if_pos hat]
      exact .inl (hw hat.1 hat.2)
    · rw [leave, if_neg hat]
      rcases given with hold | ⟨v, hv, hvat⟩
      · exact .inl hold
      · rcases List.mem_cons.mp hv with rfl | hv
        · exact absurd hvat hat
        · exact .inr ⟨v, hv, hvat⟩

end

/-- Run from here, the program comes to what the batch comes to. -/
def Carries (s : Simulator) (p : Program Channel Unit) (ws : List (WriteCall Channel)) : Prop :=
  p.ending detector s = ((s.writeAll ws).1.mapError .communication, (s.writeAll ws).2)

namespace Carries

variable {s : Simulator} {p q : Program Channel Unit} {ws vs : List (WriteCall Channel)}

theorem done (s : Simulator) : s.Carries (.done ()) [] :=
  rfl

theorem set (s : Simulator) (c : Channel) (value : Int32) (modules : List Nat) :
    s.Carries (Program.set c value modules) [⟨c, value, modules⟩] := by
  have hset : (Program.set c value modules).ending detector s =
      (Program.ofAnswer (s.carry ⟨c, value, modules⟩).result).ending detector
        (s.carry ⟨c, value, modules⟩).state := rfl
  rw [Carries, hset]
  cases h : (s.carry ⟨c, value, modules⟩).result with
  | ok =>
    rw [writeAll_cons_ok h]
    rfl
  | error e =>
    rw [writeAll_cons_error h]
    rfl

/-- The second program is run, if at all, with the same modules, of which the same one fails. -/
theorem bind (hp : s.Carries p ws) (hq : ∀ s', SameSetting s s' → s'.Carries q vs) :
    s.Carries (p >>= fun _ => q) (ws ++ vs) := by
  rw [Carries, writeAll_append]
  cases h : (s.writeAll ws).1 with
  | ok =>
    rw [Carries, h] at hp
    rw [Program.ending_bind_ok hp]
    exact hq _ (writeAll_sameSetting s ws)
  | error e =>
    rw [Carries, h] at hp
    rw [Program.ending_bind_error hp]
    rfl

theorem then_report (hp : s.Carries p ws) (ev : Event) :
    s.Carries (p >>= fun _ => Program.report ev) ws :=
  (Program.ending_then_report detector p ev s).trans hp

theorem ok_iff (h : s.Carries p ws) :
    (p.run detector s).result = .ok () ↔ (s.writeAll ws).1 = .ok () := by
  have hresult : (p.run detector s).result = (s.writeAll ws).1.mapError .communication :=
    congrArg Prod.fst h
  rw [hresult, mapError_ok_iff]

theorem state (h : s.Carries p ws) : (p.run detector s).state = (s.writeAll ws).2 :=
  congrArg Prod.snd h

/-- What does not touch the detector may stand in front. -/
theorem behind {α : Type} {first : Program Channel α} {a : α} {f : α → Program Channel Unit}
    (h : first.ending detector s = (.ok a, s)) (hf : s.Carries (f a) ws) :
    s.Carries (first >>= f) ws :=
  (Program.ending_bind_ok h).trans hf

end Carries

end DacBank.Simulator
