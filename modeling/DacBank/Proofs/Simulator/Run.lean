import DacBank.Simulator.Change
import DacBank.Proofs.Simulator.Calls
import Mathlib.Data.List.Induction

namespace DacBank

theorem RegisterFile.mem_insert {α : Type} {f : RegisterFile α} {r : Register} {a : α}
    {e : Register × α} (h : e ∈ (f.insert r a).entries) : e = (r, a) ∨ e ∈ f.entries := by
  obtain ⟨es⟩ := f
  simp only [insert] at h
  induction es with
  | nil => simpa [replace] using h
  | cons x es ih =>
    obtain ⟨k, b⟩ := x
    by_cases hk : k = r
    · simp only [replace, hk, ↓reduceIte, List.mem_cons] at h
      rcases h with h | h
      · exact .inl h
      · exact .inr (List.mem_cons_of_mem _ h)
    · simp only [replace, hk, ↓reduceIte, List.mem_cons] at h
      rcases h with h | h
      · exact .inr (h ▸ List.mem_cons_self)
      · rcases ih h with h | h
        · exact .inl h
        · exact .inr (List.mem_cons_of_mem _ h)

theorem RegisterFile.mem_of_get? {α : Type} {f : RegisterFile α} {r : Register} {a : α}
    (h : f.get? r = some a) : (r, a) ∈ f.entries := by
  obtain ⟨es⟩ := f
  simp only [get?] at h
  induction es with
  | nil => cases h
  | cons x es ih =>
    obtain ⟨k, b⟩ := x
    by_cases hk : k = r
    · simp only [lookup, hk, ↓reduceIte, Option.some.injEq] at h
      simp [hk, h]
    · simp only [lookup, hk, ↓reduceIte] at h
      exact List.mem_cons_of_mem _ (ih h)

namespace Simulator

/-- What is done to a simulated detector: a call, or a change from outside. -/
inductive Action where
  | read (channel : Channel) (modules : List Nat)
  | write (channel : Channel) (value : Int32) (modules : List Nat)
  | change (c : Change)

def step (s : Simulator) : Action → Simulator
  | .read c modules => (s.read c modules).state
  | .write c value modules => (s.write c value modules).state
  | .change c => s.apply c

def run (s : Simulator) (actions : List Action) : Simulator :=
  actions.foldl step s

theorem run_append (s : Simulator) (first rest : List Action) :
    s.run (first ++ rest) = (s.run first).run rest :=
  List.foldl_append

/-- A new detector: it takes every register and starts with zeros, or it knows the registers of some
DACs and starts with their defaults. -/
structure Setup where
  modules : Nat
  known : Option (List Dac)
  converter : Converter

namespace Setup

def start (u : Setup) : Simulator :=
  match u.known with
  | none => (ofModules u.modules).withConverter u.converter
  | some dacs => (ofDacs u.modules dacs).withConverter u.converter

/-- The DACs that give the defaults. -/
def dacs (u : Setup) : List Dac :=
  u.known.getD []

/-- The default of a register is that of the last DAC that has it, and zero if none has. -/
def default (u : Setup) (r : Register) : Int32 :=
  ((u.dacs.reverse.find? (·.register = r)).map Dac.default).getD 0

end Setup

/-- The states that some run from some set-up ends in. -/
def Reachable (s : Simulator) : Prop :=
  ∃ (u : Setup) (actions : List Action), s = u.start.run actions

theorem defaultsOf_append_singleton (dacs : List Dac) (d : Dac) :
    defaultsOf (dacs ++ [d]) = (defaultsOf dacs).insert d.register d.default := by
  simp [defaultsOf]

theorem get?_defaultsOf (dacs : List Dac) (r : Register) :
    (defaultsOf dacs).get? r = (dacs.reverse.find? (·.register = r)).map Dac.default := by
  induction dacs using List.reverseRecOn with
  | nil => rfl
  | append_singleton dacs d ih =>
    rw [defaultsOf_append_singleton, RegisterFile.get?_insert, List.reverse_append,
      List.reverse_singleton, List.singleton_append, List.find?_cons]
    by_cases hd : d.register = r
    · simp [hd]
    · simp [hd, ih]

theorem Setup.defaultOf_start (u : Setup) (r : Register) : u.start.defaultOf r = u.default r := by
  obtain ⟨modules, known, converter⟩ := u
  cases known with
  | none => rfl
  | some dacs =>
    change ((defaultsOf dacs).get? r).getD 0 = _
    rw [get?_defaultsOf]
    rfl

theorem Setup.stored_start (u : Setup) : u.start.stored = .empty := by
  obtain ⟨modules, known, converter⟩ := u
  cases known <;> rfl

/-- The defaults, the known registers and the converter are fixed at the start. -/
structure SameMake (s s' : Simulator) : Prop where
  defaults : s'.defaults = s.defaults
  knownOnly : s'.knownOnly = s.knownOnly
  converter : s'.converter = s.converter

theorem SameMake.trans {s t u : Simulator} (h : SameMake s t) (h' : SameMake t u) :
    SameMake s u :=
  ⟨h'.defaults.trans h.defaults, h'.knownOnly.trans h.knownOnly, h'.converter.trans h.converter⟩

theorem step_sameMake (s : Simulator) (a : Action) : SameMake s (s.step a) := by
  cases a with
  | read c modules => exact ⟨rfl, rfl, rfl⟩
  | write c value modules =>
    rcases write_cases s c value modules with ⟨raw, _, _, _, _, hw⟩ | ⟨e, hw⟩
    all_goals simp only [step, hw]
    all_goals exact ⟨rfl, rfl, rfl⟩
  | change c => cases c <;> exact ⟨rfl, rfl, rfl⟩

theorem run_sameMake (s : Simulator) (actions : List Action) : SameMake s (s.run actions) := by
  induction actions generalizing s with
  | nil => exact ⟨rfl, rfl, rfl⟩
  | cons a rest ih => exact (step_sameMake s a).trans (ih (s.step a))

/-- Two states of one detector with the same modules, of which the same one fails. -/
structure SameSetting (s s' : Simulator) : Prop where
  make : SameMake s s'
  modules : s'.modules = s.modules
  failing : s'.failing = s.failing

namespace SameSetting

variable {s s' t : Simulator}

theorem refl (s : Simulator) : SameSetting s s :=
  ⟨⟨rfl, rfl, rfl⟩, rfl, rfl⟩

theorem trans (h : SameSetting s s') (h' : SameSetting s' t) : SameSetting s t :=
  ⟨h.make.trans h'.make, h'.modules.trans h.modules, h'.failing.trans h.failing⟩

theorem checkModules (h : SameSetting s s') (modules : List Nat) :
    s'.checkModules modules = s.checkModules modules := by
  induction modules with
  | nil => rfl
  | cons m rest ih => simp only [Simulator.checkModules, h.modules, h.failing, ih]

theorem absorb (h : SameSetting s s') (unit : MeasureUnit) (value : Int32) :
    s'.absorb unit value = s.absorb unit value := by
  simp only [Simulator.absorb, h.make.converter]

end SameSetting

/-- Each stored row has a value for each module, and is of a register that the detector takes. -/
structure Fits (s : Simulator) : Prop where
  length : ∀ e ∈ s.stored.entries, e.2.length = s.modules
  known : ∀ e ∈ s.stored.entries, s.checkRegister e.1 = .ok ()

theorem Setup.fits_start (u : Setup) : u.start.Fits := by
  constructor <;> simp [u.stored_start, RegisterFile.empty]

theorem checkRegister_congr {s s' : Simulator} (h : SameMake s s') (r : Register) :
    s'.checkRegister r = s.checkRegister r := by
  simp only [checkRegister, h.defaults, h.knownOnly]

theorem SameSetting.screen {s s' : Simulator} (h : SameSetting s s') (c : Channel) (value : Int32)
    (modules : List Nat) : s'.screen c value modules = s.screen c value modules := by
  simp only [Simulator.screen, h.checkModules, checkRegister_congr h.make, h.absorb]

theorem Fits.store {s : Simulator} (h : s.Fits) {r : Register} (hr : s.checkRegister r = .ok ())
    (raw : Int32) (modules : List Nat) : (s.store r raw modules).Fits := by
  constructor
  · intro e he
    rcases RegisterFile.mem_insert he with rfl | he
    · exact (ModuleValues.length_setAll ..).trans (length_row s r)
    · exact h.length e he
  · intro e he
    rcases RegisterFile.mem_insert he with rfl | he
    · exact hr
    · exact h.known e he

theorem Fits.setModuleCount {s : Simulator} (h : s.Fits) (count : Nat) :
    (s.setModuleCount count).Fits := by
  constructor
  · intro e he
    obtain ⟨x, _, rfl⟩ := List.mem_map.mp he
    exact ModuleValues.length_resize ..
  · intro e he
    obtain ⟨x, hx, rfl⟩ := List.mem_map.mp he
    exact h.known x hx

theorem Fits.step {s : Simulator} (h : s.Fits) (a : Action) : (s.step a).Fits := by
  cases a with
  | read c modules => exact ⟨h.length, h.known⟩
  | write c value modules =>
    rcases write_cases s c value modules with ⟨raw, _, hr, _, _, hw⟩ | ⟨e, hw⟩
    all_goals simp only [Simulator.step, hw]
    · have hb : Fits { s with budget := s.budget.map (· - 1) } := ⟨h.length, h.known⟩
      exact hb.store hr raw modules
    · exact h
  | change c =>
    cases c with
    | modules count => exact h.setModuleCount count
    | failing module | budget writes | counters => exact ⟨h.length, h.known⟩

theorem Fits.run {s : Simulator} (h : s.Fits) (actions : List Action) : (s.run actions).Fits := by
  induction actions generalizing s with
  | nil => exact h
  | cons a rest ih => exact ih (h.step a)

end Simulator

end DacBank
