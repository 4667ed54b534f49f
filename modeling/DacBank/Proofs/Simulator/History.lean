import DacBank.Proofs.Simulator.Run

namespace DacBank.Simulator

/-- What an action leaves to remember: a value on some modules, or a new number of modules. -/
inductive Deed where
  | stored (register : Register) (raw : Int32) (modules : List Nat)
  | resized (modules : Nat)
  deriving DecidableEq

/-- Reads and failed writes leave nothing to remember. -/
def deed? (s : Simulator) : Action → Option Deed
  | .read .. => none
  | .write c value modules =>
    match (s.write c value modules).result, s.absorb c.unit value with
    | .ok (), .ok raw => some (.stored c.register raw modules)
    | _, _ => none
  | .change (.modules count) => some (.resized count)
  | .change _ => none

/-- The deeds of a run, the latest first. -/
def history (s : Simulator) : List Action → List Deed
  | [] => []
  | a :: rest => history (s.step a) rest ++ (s.deed? a).toList

/-- The last value written to a module, if the module has not been lost since. -/
def lastStored (r : Register) (m : Nat) : List Deed → Option Int32
  | [] => none
  | .stored q raw modules :: earlier =>
    if q = r ∧ m ∈ modules then some raw else lastStored r m earlier
  | .resized count :: earlier => if m < count then lastStored r m earlier else none

/-- A module beyond the last one would show the default: no row reaches that far. -/
theorem Fits.rawValue_beyond {s : Simulator} (h : s.Fits) (r : Register) {m : Nat}
    (hm : s.modules ≤ m) : s.rawValue r m = s.defaultOf r := by
  rw [rawValue_eq]
  cases hv : s.stored.get? r with
  | none => rfl
  | some values =>
    have hl : values.length = s.modules := h.length _ (RegisterFile.mem_of_get? hv)
    simp [List.getElem?_eq_none (hl ▸ hm)]

/-- The values that a detector shows are those of a history. -/
structure Recalls (s : Simulator) (deeds : List Deed) : Prop where
  fits : s.Fits
  value : ∀ r m, s.rawValue r m = (lastStored r m deeds).getD (s.defaultOf r)

theorem Recalls.store {s : Simulator} {deeds : List Deed} (h : s.Recalls deeds) {r : Register}
    {modules : List Nat} (hr : s.checkRegister r = .ok ()) (hm : ∀ m ∈ modules, m < s.modules)
    (raw : Int32) : (s.store r raw modules).Recalls (.stored r raw modules :: deeds) := by
  have hfits := h.fits.store hr raw modules
  refine ⟨hfits, ?_⟩
  intro q m
  by_cases hlt : m < s.modules
  · rw [rawValue_store r q raw modules hlt, lastStored]
    split
    · rfl
    · exact h.value q m
  · have hle : s.modules ≤ m := Nat.le_of_not_lt hlt
    have hnot : m ∉ modules := fun hmem => hlt (hm m hmem)
    have hval : (lastStored q m deeds).getD (s.defaultOf q) = s.defaultOf q := by
      rw [← h.value q m, h.fits.rawValue_beyond q hle]
    rw [hfits.rawValue_beyond q hle, lastStored, if_neg (fun hc => hnot hc.2)]
    exact hval.symm

theorem Recalls.setModuleCount {s : Simulator} {deeds : List Deed} (h : s.Recalls deeds)
    (count : Nat) : (s.setModuleCount count).Recalls (.resized count :: deeds) := by
  have hfits := h.fits.setModuleCount count
  refine ⟨hfits, ?_⟩
  intro r m
  by_cases hm : m < count
  · rw [rawValue_setModuleCount r hm, lastStored, if_pos hm]
    exact h.value r m
  · rw [hfits.rawValue_beyond r (Nat.le_of_not_lt hm), lastStored, if_neg hm]
    rfl

theorem Recalls.step {s : Simulator} {deeds : List Deed} (h : s.Recalls deeds) (a : Action) :
    (s.step a).Recalls ((s.deed? a).toList ++ deeds) := by
  cases a with
  | read c modules => exact ⟨h.fits.step (.read c modules), h.value⟩
  | write c value modules =>
    rcases write_cases s c value modules with ⟨raw, hm, hr, ha, _, hw⟩ | ⟨e, hw⟩
    · simp only [Simulator.step, deed?, hw, ha]
      have hb : Recalls { s with budget := s.budget.map (· - 1) } deeds :=
        ⟨⟨h.fits.length, h.fits.known⟩, h.value⟩
      exact hb.store hr (fun m hmem => (checkModules_ok_iff.mp hm m hmem).1) raw
    · simp only [Simulator.step, deed?, hw]
      exact h
  | change c =>
    cases c with
    | modules count => exact h.setModuleCount count
    | failing module | budget writes | counters => exact ⟨h.fits.step (.change _), h.value⟩

/-- By induction on the actions: a run adds its own history to what was remembered before. -/
theorem Recalls.run {s : Simulator} {deeds : List Deed} (h : s.Recalls deeds)
    (actions : List Action) : (s.run actions).Recalls (s.history actions ++ deeds) := by
  induction actions generalizing s deeds with
  | nil => exact h
  | cons a rest ih =>
    have hrest := ih (h.step a)
    rw [← List.append_assoc] at hrest
    exact hrest

theorem Setup.recalls_start (u : Setup) : u.start.Recalls [] := by
  refine ⟨u.fits_start, ?_⟩
  intro r m
  rw [rawValue_eq, u.stored_start]
  rfl

theorem Setup.checkRegister_start {u : Setup} {dacs : List Dac} (hu : u.known = some dacs)
    {r : Register} (h : u.start.checkRegister r = .ok ()) : ∃ d ∈ dacs, d.register = r := by
  obtain ⟨modules, known, converter⟩ := u
  subst hu
  have hd : (defaultsOf dacs).get? r ≠ none := checkRegister_ok_iff.mp h rfl
  rw [get?_defaultsOf, ne_eq, Option.map_eq_none_iff, List.find?_eq_none] at hd
  simp only [List.mem_reverse, decide_eq_true_eq, not_forall, not_not] at hd
  obtain ⟨d, hmem, hr⟩ := hd
  exact ⟨d, hmem, hr⟩

/-- After any run, every stored row has one value for each module, so that no write reaches beyond
its row; each module shows the last value written to it since it was there, or else the default of
the register, in `values` as in every read in steps; and a detector that knows its registers stores
no others. -/
theorem run_shows_last_writes (u : Setup) (actions : List Action) :
    let s := u.start.run actions
    let held := fun r m => (lastStored r m (u.start.history actions)).getD (u.default r)
    (∀ e ∈ s.stored.entries, e.2.length = s.modules) ∧
    (∀ c value modules, (s.write c value modules).result = .ok () →
      ∀ m ∈ modules, m < (s.row c.register).length) ∧
    (∀ r, s.values r = (List.range s.modules).map (held r)) ∧
    (∀ r modules values, (s.read ⟨r, .raw⟩ modules).result = .ok values →
      (∀ m ∈ modules, m < s.modules) ∧ values = modules.map (held r)) ∧
    (∀ dacs, u.known = some dacs → ∀ e ∈ s.stored.entries, ∃ d ∈ dacs, d.register = e.1) := by
  intro s held
  have hs : s.Recalls (u.start.history actions ++ []) := u.recalls_start.run actions
  have hmake : SameMake u.start s := run_sameMake u.start actions
  have hheld : ∀ r, s.rawValue r = held r := by
    intro r
    funext m
    rw [hs.value r m, List.append_nil, defaultOf, hmake.defaults]
    exact congrArg _ (u.defaultOf_start r)
  refine ⟨hs.fits.length, ?_, ?_, ?_, ?_⟩
  · intro c value modules hw m hm
    rcases write_cases s c value modules with ⟨raw, hc, _, _, _, _⟩ | ⟨e, he⟩
    · rw [length_row]
      exact (checkModules_ok_iff.mp hc m hm).1
    · simp [he] at hw
  · intro r
    rw [← hheld r]
    rfl
  · intro r modules values hr
    obtain ⟨hc, _, hv⟩ := readValues_raw_ok hr
    exact ⟨fun m hm => (checkModules_ok_iff.mp hc m hm).1, hheld r ▸ hv⟩
  · intro dacs hu e he
    have hk : s.checkRegister e.1 = .ok () := hs.fits.known e he
    rw [checkRegister_congr hmake] at hk
    exact u.checkRegister_start hu hk

/-- Two modules written, one of them lost, two added: the lost one is back at the default. -/
theorem run_shows_last_writes_regrown :
    let u : Setup := ⟨2, some [⟨"vth1", ⟨6⟩, 0, 4095, 100⟩], .mythen3⟩
    let s := u.start.run
      [.write ⟨⟨6⟩, .raw⟩ 7 [0, 1], .change (.modules 1), .change (.modules 3)]
    (s.write ⟨⟨6⟩, .millivolt⟩ 2048 [2, 0]).result = .ok () ∧
    (∀ m ∈ [2, 0], m < (s.row ⟨6⟩).length) ∧
    (s.read ⟨⟨6⟩, .raw⟩ [1, 0]).result = .ok [100, 7] ∧
    (∀ m ∈ [1, 0], m < s.modules) ∧
    (⟨6⟩, [7, 100, 100]) ∈ s.stored.entries ∧ [7, 100, 100].length = s.modules ∧
    s.values ⟨6⟩ = [7, 100, 100] ∧
    ∃ d ∈ [(⟨"vth1", ⟨6⟩, 0, 4095, 100⟩ : Dac)], d.register = ⟨6⟩ := by
  intro u s
  obtain ⟨hlen, hwrite, hvalues, hread, hknown⟩ := run_shows_last_writes u
    [.write ⟨⟨6⟩, .raw⟩ 7 [0, 1], .change (.modules 1), .change (.modules 3)]
  have hmem : ((⟨6⟩ : Register), [7, 100, 100]) ∈ s.stored.entries := by decide
  have hok : (s.write ⟨⟨6⟩, .millivolt⟩ 2048 [2, 0]).result = .ok () := by decide +kernel
  exact ⟨hok, hwrite ⟨⟨6⟩, .millivolt⟩ 2048 [2, 0] hok, rfl, (hread ⟨6⟩ [1, 0] [100, 7] rfl).1,
    hmem, hlen _ hmem, (hvalues ⟨6⟩).trans (by decide), hknown _ rfl _ hmem⟩

end DacBank.Simulator
