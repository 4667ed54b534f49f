import DacBank.Proofs.Property.Reply

namespace DacBank

namespace Exchange

variable {χ : Type}

/-- What went wrong in a call: the detector answered with an error, or a read got another number of
values than it asked for. -/
def failure? : Exchange χ → Option DetectorError
  | .read _ _ (.error e) => some e
  | .read _ modules (.ok values) =>
    if values.length ≠ modules.length then some (.invalidResponse modules.length values.length)
    else none
  | .wrote _ _ _ (.error e) => some e
  | _ => none

/-- No call of the record went wrong. -/
def Sound (t : List (Exchange χ)) : Prop :=
  ∀ x ∈ t, x.failure? = none

theorem sound_nil : Sound ([] : List (Exchange χ)) :=
  fun _ hx => absurd hx List.not_mem_nil

theorem Sound.cons {x : Exchange χ} {t : List (Exchange χ)} (hx : x.failure? = none)
    (ht : Sound t) : Sound (x :: t) :=
  List.forall_mem_cons.mpr ⟨hx, ht⟩

theorem Sound.append {t u : List (Exchange χ)} (ht : Sound t) (hu : Sound u) : Sound (t ++ u) :=
  fun x hx => (List.mem_append.mp hx).elim (ht x) (hu x)

theorem Sound.calls {t : List (Exchange χ)} (h : Sound t) : Sound (calls t) :=
  fun x hx => h x (List.mem_filter.mp hx).1

theorem sound_reported (events : List Event) : Sound (events.map (reported (χ := χ))) := by
  intro x hx
  obtain ⟨ev, _, rfl⟩ := List.mem_map.mp hx
  rfl

end Exchange

namespace Program

open Exchange

variable {χ α β : Type}

/-- How an operation may end: no call went wrong and the error, if there is one, is of another kind;
or the last call went wrong, and the error is that of this call. -/
inductive Prompt (t : List (Exchange χ)) : Except DacError α → Prop where
  | whole {r : Except DacError α} (sound : Sound t) (other : ∀ e, r ≠ .error (.communication e)) :
      Prompt t r
  | broken {before : List (Exchange χ)} {x : Exchange χ} {e : DetectorError}
      (split : calls t = before ++ [x]) (sound : Sound before) (failed : x.failure? = some e) :
      Prompt t (.error (.communication e))

/-- However it is answered, the program ends with the first call that goes wrong. -/
def FailsFast (p : Program χ α) : Prop :=
  ∀ t r, Recorded p t r → Prompt t r

theorem Prompt.after {t u : List (Exchange χ)} {r : Except DacError α} (ht : Sound t)
    (h : Prompt u r) : Prompt (t ++ u) r := by
  cases h with
  | whole sound other => exact .whole (ht.append sound) other
  | broken split sound failed =>
    refine .broken ?_ (ht.calls.append sound) failed
    rw [calls_append, split, List.append_assoc]

/-- A single call that goes wrong, with the events behind it. -/
theorem Prompt.failed {x : Exchange χ} {e : DetectorError} (hcall : x.isCall = true)
    (hx : x.failure? = some e) (events : List Event) :
    Prompt (x :: events.map .reported) (.error (.communication e) : Except DacError α) := by
  have hcalls : calls (x :: events.map .reported) = [] ++ [x] := by
    rw [calls_cons, if_pos hcall, calls_reported]
    rfl
  exact .broken hcalls sound_nil hx

/-- Behind the failure there is room for events only. -/
theorem Prompt.then_reported {t : List (Exchange χ)} {r : Except DacError α} (h : Prompt t r)
    (ev : Event) : Prompt (t ++ [.reported ev]) r := by
  cases h with
  | whole sound other => exact .whole (sound.append (sound_reported [ev])) other
  | broken split sound failed =>
    refine .broken ?_ sound failed
    simp [split]

theorem Prompt.sound_of_ok {t : List (Exchange χ)} {a : α}
    (h : Prompt t (.ok a : Except DacError α)) : Sound t := by
  cases h with
  | whole sound _ => exact sound

/-- An error is the same whatever kind of result was wanted. -/
theorem Prompt.of_error {t : List (Exchange χ)} {e : DacError}
    (h : Prompt t (.error e : Except DacError α)) : Prompt t (.error e : Except DacError β) := by
  cases h with
  | whole sound other =>
    refine .whole sound fun e' he => other e' ?_
    cases he
    rfl
  | broken split sound failed => exact .broken split sound failed

/-- The first failure, wherever it stands, is the last call and the result. -/
theorem Prompt.failure_is_last {t before after : List (Exchange χ)} {x : Exchange χ}
    {r : Except DacError α} {e : DetectorError} (h : Prompt t r)
    (hsplit : calls t = before ++ x :: after) (hx : x.failure? = some e) :
    after = [] ∧ r = .error (.communication e) := by
  have hmem : x ∈ calls t := by simp [hsplit]
  cases h with
  | whole sound _ =>
    rw [sound.calls x hmem] at hx
    cases hx
  | @broken earlier y e' split sound failed =>
    rw [split] at hsplit
    -- `x` is the last call, or else one of the earlier ones, which went well.
    rcases List.eq_nil_or_concat after with rfl | ⟨more, z, rfl⟩
    · obtain ⟨_, hy⟩ := List.append_inj' hsplit rfl
      obtain ⟨rfl, _⟩ := List.cons.inj hy
      rw [failed] at hx
      cases hx
      exact ⟨rfl, rfl⟩
    · rw [List.concat_eq_append, ← List.cons_append, ← List.append_assoc] at hsplit
      obtain ⟨rfl, _⟩ := List.append_inj' hsplit rfl
      rw [sound x (by simp)] at hx
      cases hx

theorem Prompt.error_is_failure {t : List (Exchange χ)} {e : DetectorError}
    (h : Prompt t (.error (.communication e) : Except DacError α)) :
    ∃ x, (calls t).getLast? = some x ∧ x.failure? = some e := by
  cases h with
  | whole _ other => exact absurd rfl (other e)
  | @broken before x _ split _ failed => exact ⟨x, by simp [split], failed⟩

theorem FailsFast.done (a : α) : FailsFast (.done a : Program χ α) := by
  intro t r h
  cases h
  exact .whole sound_nil (fun _ he => by cases he)

/-- An error that no call has caused is of another kind. -/
theorem FailsFast.fail {e : DacError} (he : ∀ e', e ≠ .communication e') :
    FailsFast (.fail e : Program χ α) := by
  intro t r h
  cases h
  refine .whole sound_nil fun e' h => he e' ?_
  cases h
  rfl

theorem FailsFast.ofExcept {x : Except DacError α} (hx : ∀ e, x ≠ .error (.communication e)) :
    FailsFast (Program.ofExcept x : Program χ α) := by
  cases x with
  | ok a => exact .done a
  | error e => exact .fail fun e' he => hx e' (by rw [he])

theorem FailsFast.moduleCount : FailsFast (Program.moduleCount : Program χ Nat) := by
  intro t r h
  obtain ⟨n, rfl, rfl⟩ := h.of_moduleCount
  exact .whole (sound_nil.cons rfl) (fun _ he => by cases he)

theorem FailsFast.report (ev : Event) : FailsFast (Program.report ev : Program χ Unit) := by
  intro t r h
  obtain ⟨rfl, rfl⟩ := h.of_report
  exact .whole (sound_reported [ev]) (fun _ he => by cases he)

theorem FailsFast.set (c : χ) (value : Int32) (modules : List Nat) :
    FailsFast (Program.set c value modules) := by
  intro t r h
  obtain ⟨answer, events, rfl, rfl⟩ := h.of_set
  cases answer with
  | ok u => exact .whole ((sound_reported events).cons rfl) (fun _ he => by cases he)
  | error e => exact .failed rfl rfl events

theorem FailsFast.bind {p : Program χ α} {f : α → Program χ β} (hp : FailsFast p)
    (hf : ∀ a, FailsFast (f a)) : FailsFast (p >>= f) := by
  intro t r h
  rcases h.of_bind with ⟨a, t₁, t₂, h₁, h₂, rfl⟩ | ⟨e, h₁, rfl⟩
  · exact (hf a _ _ h₂).after (hp _ _ h₁).sound_of_ok
  · exact (hp _ _ h₁).of_error

theorem FailsFast.map {p : Program χ α} (hp : FailsFast p) (f : α → β) : FailsFast (f <$> p) :=
  hp.bind fun a => .done (f a)

theorem FailsFast.mapM {ι : Type} (l : List ι) {f : ι → Program χ α}
    (hf : ∀ x, FailsFast (f x)) : FailsFast (l.mapM f) := by
  induction l with
  | nil => exact .done []
  | cons x rest ih =>
    rw [List.mapM_cons]
    exact (hf x).bind fun _ => ih.bind fun _ => .done _

theorem FailsFast.forM {ι : Type} (l : List ι) {f : ι → Program χ Unit}
    (hf : ∀ x, FailsFast (f x)) : FailsFast (forM l f) := by
  induction l with
  | nil => exact .done ()
  | cons x rest ih => exact (hf x).bind fun _ => ih

theorem FailsFast.reportFailure {p : Program χ α} (hp : FailsFast p) (event : DacError → Event) :
    FailsFast (p.reportFailure event) := by
  intro t r h
  rcases h.of_reportFailure with ⟨a, h', rfl⟩ | ⟨e, u, h', rfl, rfl⟩
  · exact hp _ _ h'
  · exact (hp _ _ h').then_reported (event e)

end Program

theorem Selector.resolve_ne_communication (selector : Selector) (count : Nat) (e : DetectorError) :
    selector.resolve count ≠ .error (.communication e) := by
  cases selector with
  | all => exact fun h => by cases h
  | modules list =>
    rw [resolve]
    split <;> exact fun h => by cases h

namespace Property

open Program Exchange

variable {χ : Type}

theorem select_failsFast (selector : Selector) : FailsFast (select selector : Program χ _) :=
  FailsFast.moduleCount.bind fun count => .ofExcept (selector.resolve_ne_communication count)

/-- A read takes the replies that nothing is wrong with. -/
theorem received_prompt (c : χ) (modules : List Nat) (answer : Except DetectorError (List Int32))
    (events : List Event) :
    Prompt (.read c modules answer :: events.map .reported) (received modules answer) := by
  cases answer with
  | error e => exact .failed rfl rfl events
  | ok values =>
    by_cases hlen : values.length ≠ modules.length
    · rw [received, if_pos hlen]
      exact .failed (x := .read c modules (.ok values)) rfl (if_pos hlen) events
    · rw [received, if_neg hlen]
      exact .whole ((sound_reported events).cons (if_neg hlen)) (fun _ he => by cases he)

theorem read_failsFast (p : Property χ) (selector : Selector) : FailsFast (p.read selector) := by
  intro t r h
  obtain ⟨n, u, rfl, hend⟩ := read_recorded h
  have hcounted : Sound [(.counted n : Exchange χ)] := sound_nil.cons rfl
  rcases hend with ⟨e, he, rfl, rfl⟩ | ⟨_, rfl, rfl⟩ | ⟨modules, answer, events, _, _, rfl, rfl⟩
  · refine .whole hcounted fun e' h' => ?_
    cases h'
    exact selector.resolve_ne_communication n e' he
  · exact .whole hcounted (fun _ he => by cases he)
  · exact (received_prompt p.channel modules answer events).after hcounted

theorem writeEach_failsFast (c : χ) (modules : List Nat) (values : List Int32) :
    FailsFast (writeEach c modules values) := by
  induction modules generalizing values with
  | nil => exact .done ()
  | cons m modules ih =>
    cases values with
    | nil => exact .done ()
    | cons v values => exact (FailsFast.set c v [m]).bind fun _ => ih values

theorem broadcast_failsFast (c : χ) (modules : List Nat) (value : Int32) :
    FailsFast (broadcast c modules value) := by
  unfold broadcast
  split
  · exact .done ()
  · exact .set c value modules

theorem write_failsFast (p : Property χ) (selector : Selector) (payload : Payload) :
    FailsFast (p.write selector payload) := by
  refine (select_failsFast selector).bind fun modules => ?_
  cases payload with
  | scalar value =>
    exact (broadcast_failsFast p.channel modules value).bind fun _ => .report _
  | perModule values =>
    simp only
    split
    · exact .fail fun _ he => by cases he
    · exact (writeEach_failsFast p.channel modules values).bind fun _ => .report _

theorem render_failsFast (p : Property χ) (selector : Selector) :
    FailsFast (p.render selector) :=
  (p.read_failsFast selector).bind fun values => .done (Row.format p.name values)

end Property

end DacBank
