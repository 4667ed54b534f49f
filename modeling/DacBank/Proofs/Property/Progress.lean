import DacBank.Proofs.Program.Recorded
import DacBank.Property

namespace DacBank.Property

open Program Exchange

variable {χ : Type}

/-- Writes that were all answered well. -/
def accepted (ws : List (WriteCall χ)) :
    List (WriteCall χ × Except DetectorError Unit) :=
  ws.map fun w => (w, .ok ())

@[simp] theorem accepted_append (ws vs : List (WriteCall χ)) :
    accepted (ws ++ vs) = accepted ws ++ accepted vs :=
  List.map_append

@[simp] theorem map_fst_accepted (ws : List (WriteCall χ)) :
    (accepted ws).map Prod.fst = ws := by
  simp [accepted, Function.comp_def]

/-- How far a list of wanted writes came: to its end, or to the first one that was refused. -/
inductive Progress (wanted : List (WriteCall χ)) (t : List (Exchange χ)) :
    Except DacError Unit → Prop where
  | finished (all : writes t = accepted wanted) : Progress wanted t (.ok ())
  | refused (before : List (WriteCall χ)) (w : WriteCall χ) (after : List (WriteCall χ))
      {e : DetectorError} (split : wanted = before ++ w :: after)
      (issued : writes t = accepted before ++ [(w, .error e)])
      (last : (calls t).getLast? = some (w.exchange (.error e))) :
      Progress wanted t (.error (.communication e))

theorem Progress.after {first wanted : List (WriteCall χ)} {t₁ t₂ : List (Exchange χ)}
    {r : Except DacError Unit} (hw : writes t₁ = accepted first) (h : Progress wanted t₂ r) :
    Progress (first ++ wanted) (t₁ ++ t₂) r := by
  cases h with
  | finished all => exact .finished (by rw [writes_append, hw, all, accepted_append])
  | refused before w after split issued last =>
    refine .refused (first ++ before) w after ?_ ?_ ?_
    · rw [split, List.append_assoc]
    · rw [writes_append, hw, issued, accepted_append, List.append_assoc]
    · rw [calls_append, List.getLast?_append, last, Option.some_or]

/-- What is not a write may stand in front. -/
theorem Progress.behind {wanted : List (WriteCall χ)} {t₁ t₂ : List (Exchange χ)}
    {r : Except DacError Unit} (hw : writes t₁ = []) (h : Progress wanted t₂ r) :
    Progress wanted (t₁ ++ t₂) r :=
  h.after (show writes t₁ = accepted [] from hw)

theorem Progress.stop {wanted : List (WriteCall χ)} {t : List (Exchange χ)}
    {e : DacError} (h : Progress wanted t (.error e)) (more : List (WriteCall χ)) :
    Progress (wanted ++ more) t (.error e) := by
  cases h with
  | refused before w after split issued last =>
    refine .refused before w (after ++ more) ?_ issued last
    rw [split, List.append_assoc, List.cons_append]

theorem Progress.isPrefix {wanted : List (WriteCall χ)} {t : List (Exchange χ)}
    {r : Except DacError Unit} (h : Progress wanted t r) : (writes t).map Prod.fst <+: wanted := by
  cases h with
  | finished all =>
    refine ⟨[], ?_⟩
    rw [all, map_fst_accepted, List.append_nil]
  | refused before w after split issued last =>
    rw [issued, split, List.map_append, map_fst_accepted]
    exact ⟨after, by simp⟩

/-- What holds of all wanted writes holds of those that were issued. -/
theorem Progress.forall_writes {wanted : List (WriteCall χ)} {t : List (Exchange χ)}
    {r : Except DacError Unit} (h : Progress wanted t r) {P : WriteCall χ → Prop}
    (hP : ∀ w ∈ wanted, P w) : ∀ w ∈ writes t, P w.1 :=
  fun w hw => hP w.1 (h.isPrefix.subset (List.mem_map_of_mem hw))

theorem set_recorded {c : χ} {value : Int32} {modules : List Nat}
    {t : List (Exchange χ)} {r : Except DacError Unit}
    (h : Recorded (Program.set c value modules) t r) :
    reads t = [] ∧ counts t = [] ∧ Progress [⟨c, value, modules⟩] t r := by
  obtain ⟨answer, events, rfl, rfl⟩ := h.of_set
  refine ⟨by simp, by simp, ?_⟩
  cases answer with
  | ok => exact .finished (by simp [accepted])
  | error e => exact .refused [] _ [] rfl (by simp [accepted]) (by simp [WriteCall.exchange])

theorem writeEach_recorded {c : χ} {modules : List Nat} {values : List Int32}
    {t : List (Exchange χ)} {r : Except DacError Unit}
    (h : Recorded (writeEach c modules values) t r) :
    reads t = [] ∧ counts t = [] ∧
      Progress (List.zipWith (fun m v => ⟨c, v, [m]⟩) modules values) t r := by
  induction modules generalizing values t with
  | nil =>
    cases h
    exact ⟨rfl, rfl, .finished rfl⟩
  | cons m modules ih =>
    cases values with
    | nil =>
      cases h
      exact ⟨rfl, rfl, .finished rfl⟩
    | cons v values =>
      rcases h.of_bind with ⟨_, t₁, t₂, h₁, h₂, rfl⟩ | ⟨e, h₁, rfl⟩
      · obtain ⟨hreads₁, hcounts₁, hp₁⟩ := set_recorded h₁
        obtain ⟨hreads₂, hcounts₂, hp₂⟩ := ih h₂
        refine ⟨by simp [hreads₁, hreads₂], by simp [hcounts₁, hcounts₂], ?_⟩
        cases hp₁ with
        | finished all => exact hp₂.after all
      · obtain ⟨hreads, hcounts, hp⟩ := set_recorded h₁
        exact ⟨hreads, hcounts, hp.stop _⟩

theorem select_recorded {selector : Selector} {t : List (Exchange χ)}
    {r : Except DacError (List Nat)} (h : Recorded (select selector) t r) :
    ∃ n, t = [.counted n] ∧ r = selector.resolve n := by
  rcases h.of_bind with ⟨n, t₁, t₂, h₁, h₂, rfl⟩ | ⟨e, h₁, rfl⟩
  · obtain ⟨_, rfl, hn⟩ := h₁.of_moduleCount
    cases hn
    obtain ⟨rfl, hr⟩ := h₂.of_ofExcept
    exact ⟨n, rfl, hr⟩
  · obtain ⟨_, _, hn⟩ := h₁.of_moduleCount
    cases hn

theorem broadcast_recorded {c : χ} {modules : List Nat} {value : Int32} {t : List (Exchange χ)}
    {r : Except DacError Unit} (h : Recorded (broadcast c modules value) t r) :
    reads t = [] ∧ counts t = [] ∧
      Progress (if modules.isEmpty then [] else [⟨c, value, modules⟩]) t r := by
  unfold broadcast at h
  split at h
  · rename_i he
    cases h
    exact ⟨rfl, rfl, .finished (by simp [he, accepted])⟩
  · rename_i he
    rw [if_neg he]
    exact set_recorded h

/-- A report behind the writes changes nothing about them. -/
theorem Progress.then_report {wanted : List (WriteCall χ)} {p : Program χ Unit} {ev : Event}
    {t : List (Exchange χ)} {r : Except DacError Unit}
    (hp : ∀ {t r}, Recorded p t r → reads t = [] ∧ counts t = [] ∧ Progress wanted t r)
    (h : Recorded (p >>= fun _ => report ev) t r) :
    reads t = [] ∧ counts t = [] ∧ Progress wanted t r := by
  rcases h.of_bind with ⟨_, t₁, t₂, h₁, h₂, rfl⟩ | ⟨e, h₁, rfl⟩
  · obtain ⟨hreads, hcounts, hprog⟩ := hp h₁
    obtain ⟨rfl, rfl⟩ := h₂.of_report
    refine ⟨by simp [hreads], by simp [hcounts], ?_⟩
    cases hprog with
    | finished all => exact .finished (by simp [all])
  · exact hp h₁

/-- The writes of a payload to some modules: one for all, or one for each. -/
def wanted (c : χ) (modules : List Nat) : Payload → List (WriteCall χ)
  | .scalar value => if modules.isEmpty then [] else [⟨c, value, modules⟩]
  | .perModule values => List.zipWith (fun m v => ⟨c, v, [m]⟩) modules values

theorem wanted_scalar (c : χ) (value : Int32) {modules : List Nat} (nonempty : modules ≠ []) :
    wanted c modules (.scalar value) = [⟨c, value, modules⟩] := by
  rw [wanted, if_neg]
  exact fun hempty => nonempty (List.isEmpty_iff.mp hempty)

/-- A wanted write is the one for all modules, or that of a module and the value beside it. -/
theorem mem_wanted {c : χ} {modules : List Nat} {payload : Payload} {w : WriteCall χ}
    (hw : w ∈ wanted c modules payload) :
    (∃ value, payload = .scalar value ∧ modules ≠ [] ∧ w = ⟨c, value, modules⟩) ∨
      ∃ values x, payload = .perModule values ∧ x ∈ modules.zip values ∧ w = ⟨c, x.2, [x.1]⟩ := by
  cases payload with
  | scalar value =>
    by_cases hempty : modules = []
    · rw [wanted, hempty] at hw
      cases hw
    · rw [wanted_scalar c value hempty, List.mem_singleton] at hw
      exact .inl ⟨value, rfl, hempty, hw⟩
  | perModule values =>
    rw [wanted, ← List.map_uncurry_zip_eq_zipWith] at hw
    obtain ⟨x, hx, rfl⟩ := List.mem_map.mp hw
    exact .inr ⟨values, x, rfl, hx, rfl⟩

theorem wanted_channel {c : χ} {modules : List Nat} {payload : Payload} :
    ∀ w ∈ wanted c modules payload, w.channel = c := by
  intro w hw
  rcases mem_wanted hw with ⟨value, _, _, rfl⟩ | ⟨values, x, _, _, rfl⟩ <;> rfl

theorem wanted_value {c : χ} {modules : List Nat} {payload : Payload} :
    ∀ w ∈ wanted c modules payload, w.value ∈ payload.values := by
  intro w hw
  rcases mem_wanted hw with ⟨value, rfl, _, rfl⟩ | ⟨values, x, rfl, hx, rfl⟩
  · exact List.mem_singleton_self value
  · exact (List.of_mem_zip hx).2

/-- A write asks for the number of modules once. It stops there if a module is missing or the values
do not fit the modules; otherwise it carries out its writes as far as they are accepted. -/
theorem write_recorded {p : Property χ} {selector : Selector} {payload : Payload}
    {t : List (Exchange χ)} {r : Except DacError Unit}
    (h : Recorded (p.write selector payload) t r) :
    ∃ n, reads t = [] ∧ counts t = [n] ∧
      ((∃ e, selector.resolve n = .error e ∧ writes t = [] ∧ r = .error e) ∨
        ∃ modules, selector.resolve n = .ok modules ∧
          ((∃ values, payload = .perModule values ∧ values.length ≠ modules.length ∧
              writes t = [] ∧
              r = .error (.shapeMismatch (.values p.name) modules.length values.length)) ∨
            ((∀ values, payload = .perModule values → values.length = modules.length) ∧
              Progress (wanted p.channel modules payload) t r))) := by
  rcases h.of_bind with ⟨modules, t₁, t₂, h₁, h₂, rfl⟩ | ⟨e, h₁, rfl⟩
  · obtain ⟨n, rfl, hn⟩ := select_recorded h₁
    refine ⟨n, ?_⟩
    cases payload with
    | scalar value =>
      obtain ⟨hreads, hcounts, hp⟩ := Progress.then_report broadcast_recorded h₂
      refine ⟨by simp [hreads], by simp [hcounts], .inr ⟨modules, hn.symm, .inr ⟨?_, ?_⟩⟩⟩
      · intro values hv
        cases hv
      · exact hp.behind rfl
    | perModule values =>
      simp only at h₂
      split at h₂
      · rename_i hne
        cases h₂
        exact ⟨rfl, rfl, .inr ⟨modules, hn.symm, .inl ⟨values, rfl, hne, rfl, rfl⟩⟩⟩
      · rename_i heq
        have hlen : values.length = modules.length := Decidable.not_not.mp heq
        obtain ⟨hreads, hcounts, hp⟩ := Progress.then_report writeEach_recorded h₂
        refine ⟨by simp [hreads], by simp [hcounts],
          .inr ⟨modules, hn.symm, .inr ⟨?_, hp.behind rfl⟩⟩⟩
        intro _ hv
        cases hv
        exact hlen
  · obtain ⟨n, rfl, hn⟩ := select_recorded h₁
    exact ⟨n, rfl, rfl, .inl ⟨e, hn.symm, rfl, rfl⟩⟩

/-- What holds of all writes that may be wanted holds of those that were issued. -/
theorem write_forall {p : Property χ} {selector : Selector} {payload : Payload}
    {t : List (Exchange χ)} {r : Except DacError Unit} {P : WriteCall χ → Prop}
    (h : Recorded (p.write selector payload) t r)
    (hP : ∀ modules, ∀ w ∈ wanted p.channel modules payload, P w) : ∀ w ∈ writes t, P w.1 := by
  obtain ⟨n, _, _, hend⟩ := write_recorded h
  rcases hend with ⟨e, _, hw, _⟩ | ⟨modules, _, ⟨values, _, _, hw, _⟩ | ⟨_, hp⟩⟩
  · simp [hw]
  · simp [hw]
  · exact hp.forall_writes (hP modules)

/-- Whatever is selected and written, only the channel of the property is written to. -/
theorem write_channel {p : Property χ} {selector : Selector} {payload : Payload}
    {t : List (Exchange χ)} {r : Except DacError Unit}
    (h : Recorded (p.write selector payload) t r) : ∀ w ∈ writes t, w.1.channel = p.channel :=
  write_forall h fun _ => wanted_channel

theorem write_value {p : Property χ} {selector : Selector} {payload : Payload}
    {t : List (Exchange χ)} {r : Except DacError Unit}
    (h : Recorded (p.write selector payload) t r) : ∀ w ∈ writes t, w.1.value ∈ payload.values :=
  write_forall h fun _ => wanted_value

end DacBank.Property
