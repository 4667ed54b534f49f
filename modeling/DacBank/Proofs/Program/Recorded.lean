import DacBank.Detector

namespace DacBank

/-- A write as it is asked for. -/
structure WriteCall (χ : Type) where
  channel : χ
  value : Int32
  modules : List Nat
  deriving DecidableEq

def WriteCall.exchange {χ : Type} (w : WriteCall χ) (answer : Except DetectorError Unit) :
    Exchange χ :=
  .wrote w.channel w.value w.modules answer

namespace Exchange

variable {χ : Type}

@[simp] def isCall : Exchange χ → Bool
  | .reported _ => false
  | _ => true

@[simp] def count? : Exchange χ → Option Nat
  | .counted n => some n
  | _ => none

@[simp] def read? : Exchange χ → Option (χ × List Nat)
  | .read c modules _ => some (c, modules)
  | _ => none

@[simp] def write? : Exchange χ → Option (WriteCall χ × Except DetectorError Unit)
  | .wrote c value modules answer => some (⟨c, value, modules⟩, answer)
  | _ => none

/-- Everything that was asked of the detector. -/
def calls (t : List (Exchange χ)) : List (Exchange χ) :=
  t.filter isCall

def counts (t : List (Exchange χ)) : List Nat :=
  t.filterMap count?

def reads (t : List (Exchange χ)) : List (χ × List Nat) :=
  t.filterMap read?

/-- The writes with their answers. -/
def writes (t : List (Exchange χ)) : List (WriteCall χ × Except DetectorError Unit) :=
  t.filterMap write?

section
variable (x : Exchange χ) (t u : List (Exchange χ)) (events : List Event)

@[simp] theorem calls_nil : calls ([] : List (Exchange χ)) = [] :=
  rfl

@[simp] theorem counts_nil : counts ([] : List (Exchange χ)) = [] :=
  rfl

@[simp] theorem reads_nil : reads ([] : List (Exchange χ)) = [] :=
  rfl

@[simp] theorem writes_nil : writes ([] : List (Exchange χ)) = [] :=
  rfl

@[simp] theorem calls_cons : calls (x :: t) = if x.isCall then x :: calls t else calls t :=
  List.filter_cons

@[simp] theorem counts_cons : counts (x :: t) = x.count?.toList ++ counts t := by
  cases x <;> rfl

@[simp] theorem reads_cons : reads (x :: t) = x.read?.toList ++ reads t := by
  cases x <;> rfl

@[simp] theorem writes_cons : writes (x :: t) = x.write?.toList ++ writes t := by
  cases x <;> rfl

@[simp] theorem calls_append : calls (t ++ u) = calls t ++ calls u :=
  List.filter_append ..

@[simp] theorem counts_append : counts (t ++ u) = counts t ++ counts u :=
  List.filterMap_append ..

@[simp] theorem reads_append : reads (t ++ u) = reads t ++ reads u :=
  List.filterMap_append ..

@[simp] theorem writes_append : writes (t ++ u) = writes t ++ writes u :=
  List.filterMap_append ..

@[simp] theorem calls_reported : calls (events.map (reported (χ := χ))) = [] := by
  simp [calls]

@[simp] theorem counts_reported : counts (events.map (reported (χ := χ))) = [] := by
  simp [counts]

@[simp] theorem reads_reported : reads (events.map (reported (χ := χ))) = [] := by
  simp [reads]

@[simp] theorem writes_reported : writes (events.map (reported (χ := χ))) = [] := by
  simp [writes]

end

end Exchange

namespace Program

variable {χ σ α β : Type}

/-- The records and results of a program when each call may be answered in any way. A detector may
report events of its own behind a call. -/
inductive Recorded : Program χ α → List (Exchange χ) → Except DacError α → Prop where
  | done (a : α) : Recorded (.done a) [] (.ok a)
  | fail (e : DacError) : Recorded (.fail e) [] (.error e)
  | count {next : Nat → Program χ α} {t : List (Exchange χ)} {r : Except DacError α} (n : Nat)
      (tail : Recorded (next n) t r) : Recorded (.count next) (.counted n :: t) r
  | read {c : χ} {modules : List Nat} {next : Except DetectorError (List Int32) → Program χ α}
      {t : List (Exchange χ)} {r : Except DacError α} (answer : Except DetectorError (List Int32))
      (events : List Event) (tail : Recorded (next answer) t r) :
      Recorded (.read c modules next) (.read c modules answer :: events.map .reported ++ t) r
  | write {c : χ} {value : Int32} {modules : List Nat}
      {next : Except DetectorError Unit → Program χ α}
      {t : List (Exchange χ)} {r : Except DacError α} (answer : Except DetectorError Unit)
      (events : List Event) (tail : Recorded (next answer) t r) :
      Recorded (.write c value modules next)
        (.wrote c value modules answer :: events.map .reported ++ t) r
  | emit {ev : Event} {next : Program χ α} {t : List (Exchange χ)} {r : Except DacError α}
      (tail : Recorded next t r) : Recorded (.emit ev next) (.reported ev :: t) r

/-- Every run leaves one of the records. -/
theorem run_recorded (d : Detector χ σ) (p : Program χ α) (s : σ) :
    Recorded p (p.run d s).record (p.run d s).result := by
  induction p generalizing s with
  | done a => exact .done a
  | fail e => exact .fail e
  | count next ih => exact .count _ (ih _ _)
  | read c modules next ih => exact .read _ _ (ih _ _)
  | write c value modules next ih => exact .write _ _ (ih _ _)
  | emit ev next ih => exact .emit (ih s)

/-- A sequence leaves the record of its first part, and behind it that of the second unless the
first one failed. -/
theorem Recorded.of_bind {p : Program χ α} {f : α → Program χ β} {t : List (Exchange χ)}
    {r : Except DacError β} (h : Recorded (p >>= f) t r) :
    (∃ a t₁ t₂, Recorded p t₁ (.ok a) ∧ Recorded (f a) t₂ r ∧ t = t₁ ++ t₂) ∨
      ∃ e, Recorded p t (.error e) ∧ r = .error e := by
  change Recorded (p.bind f) t r at h
  induction p generalizing t with
  | done a => exact .inl ⟨a, [], t, .done a, h, rfl⟩
  | fail e =>
    cases h
    exact .inr ⟨e, .fail e, rfl⟩
  | count next ih =>
    cases h with
    | count n tail =>
      rcases ih n tail with ⟨a, t₁, t₂, h₁, h₂, rfl⟩ | ⟨e, h₁, hr⟩
      · exact .inl ⟨a, _, t₂, .count n h₁, h₂, rfl⟩
      · exact .inr ⟨e, .count n h₁, hr⟩
  | read c modules next ih =>
    cases h with
    | read answer events tail =>
      rcases ih answer tail with ⟨a, t₁, t₂, h₁, h₂, rfl⟩ | ⟨e, h₁, hr⟩
      · exact .inl ⟨a, _, t₂, .read answer events h₁, h₂, by simp⟩
      · exact .inr ⟨e, .read answer events h₁, hr⟩
  | write c value modules next ih =>
    cases h with
    | write answer events tail =>
      rcases ih answer tail with ⟨a, t₁, t₂, h₁, h₂, rfl⟩ | ⟨e, h₁, hr⟩
      · exact .inl ⟨a, _, t₂, .write answer events h₁, h₂, by simp⟩
      · exact .inr ⟨e, .write answer events h₁, hr⟩
  | emit ev next ih =>
    cases h with
    | emit tail =>
      rcases ih tail with ⟨a, t₁, t₂, h₁, h₂, rfl⟩ | ⟨e, h₁, hr⟩
      · exact .inl ⟨a, _, t₂, .emit h₁, h₂, rfl⟩
      · exact .inr ⟨e, .emit h₁, hr⟩

theorem run_map (d : Detector χ σ) (f : α → β) (p : Program χ α) (s : σ) :
    (f <$> p).run d s =
      ⟨(p.run d s).result.map f, (p.run d s).record, (p.run d s).state⟩ := by
  refine (run_bind d p (fun a => .done (f a)) s).trans ?_
  cases h : (p.run d s).result with
  | error e => rfl
  | ok a => simp [run, Outcome.after, Except.map]

theorem Recorded.of_ofExcept {x : Except DacError α} {t : List (Exchange χ)}
    {r : Except DacError α} (h : Recorded (ofExcept x) t r) : t = [] ∧ r = x := by
  cases x <;> cases h <;> exact ⟨rfl, rfl⟩

theorem Recorded.of_ofAnswer {x : Except DetectorError α} {t : List (Exchange χ)}
    {r : Except DacError α} (h : Recorded (ofAnswer x) t r) :
    t = [] ∧ r = x.mapError .communication := by
  cases x <;> cases h <;> exact ⟨rfl, rfl⟩

theorem Recorded.of_moduleCount {t : List (Exchange χ)} {r : Except DacError Nat}
    (h : Recorded moduleCount t r) : ∃ n, t = [.counted n] ∧ r = .ok n := by
  cases h with
  | count n tail =>
    cases tail
    exact ⟨n, rfl, rfl⟩

theorem Recorded.of_moduleCount_bind {f : Nat → Program χ α} {t : List (Exchange χ)}
    {r : Except DacError α} (h : Recorded (moduleCount >>= f) t r) :
    ∃ n u, t = .counted n :: u ∧ Recorded (f n) u r := by
  cases h with
  | count n tail => exact ⟨n, _, rfl, tail⟩

theorem Recorded.of_ofExcept_bind {x : Except DacError α} {f : α → Program χ β}
    {t : List (Exchange χ)} {r : Except DacError β} (h : Recorded (ofExcept x >>= f) t r) :
    (∃ a, x = .ok a ∧ Recorded (f a) t r) ∨ ∃ e, x = .error e ∧ t = [] ∧ r = .error e := by
  cases x with
  | ok a => exact .inl ⟨a, rfl, h⟩
  | error e =>
    cases h
    exact .inr ⟨e, rfl, rfl, rfl⟩

theorem Recorded.of_map {p : Program χ α} {f : α → β} {t : List (Exchange χ)}
    {r : Except DacError β} (h : Recorded (f <$> p) t r) :
    ∃ r', Recorded p t r' ∧ r = r'.map f := by
  rcases Recorded.of_bind (f := fun a => .done (f a)) h with
    ⟨a, t₁, t₂, h₁, h₂, rfl⟩ | ⟨e, h₁, rfl⟩
  · cases h₂
    exact ⟨.ok a, by simpa using h₁, rfl⟩
  · exact ⟨.error e, h₁, rfl⟩

theorem Recorded.map {p : Program χ α} {t : List (Exchange χ)} {r : Except DacError α}
    (h : Recorded p t r) (f : α → β) : Recorded (f <$> p) t (r.map f) := by
  induction h with
  | done a => exact .done (f a)
  | fail e => exact .fail e
  | count n _ ih => exact .count n ih
  | read answer events _ ih => exact .read answer events ih
  | write answer events _ ih => exact .write answer events ih
  | emit _ ih => exact .emit ih

/-- A failure that is reported leaves one event more, at the end. -/
theorem Recorded.of_reportFailure {p : Program χ α} {event : DacError → Event}
    {t : List (Exchange χ)} {r : Except DacError α} (h : Recorded (p.reportFailure event) t r) :
    (∃ a, Recorded p t (.ok a) ∧ r = .ok a) ∨
      ∃ e u, Recorded p u (.error e) ∧ t = u ++ [.reported (event e)] ∧ r = .error e := by
  induction p generalizing t with
  | done a =>
    cases h
    exact .inl ⟨a, .done a, rfl⟩
  | fail e =>
    cases h with
    | emit tail =>
      cases tail
      exact .inr ⟨e, [], .fail e, rfl, rfl⟩
  | count next ih =>
    cases h with
    | count n tail =>
      rcases ih n tail with ⟨a, h₁, hr⟩ | ⟨e, u, h₁, rfl, hr⟩
      · exact .inl ⟨a, .count n h₁, hr⟩
      · exact .inr ⟨e, _, .count n h₁, rfl, hr⟩
  | read c modules next ih =>
    cases h with
    | read answer events tail =>
      rcases ih answer tail with ⟨a, h₁, hr⟩ | ⟨e, u, h₁, rfl, hr⟩
      · exact .inl ⟨a, .read answer events h₁, hr⟩
      · exact .inr ⟨e, _, .read answer events h₁, by simp, hr⟩
  | write c value modules next ih =>
    cases h with
    | write answer events tail =>
      rcases ih answer tail with ⟨a, h₁, hr⟩ | ⟨e, u, h₁, rfl, hr⟩
      · exact .inl ⟨a, .write answer events h₁, hr⟩
      · exact .inr ⟨e, _, .write answer events h₁, by simp, hr⟩
  | emit ev next ih =>
    cases h with
    | emit tail =>
      rcases ih tail with ⟨a, h₁, hr⟩ | ⟨e, u, h₁, rfl, hr⟩
      · exact .inl ⟨a, .emit h₁, hr⟩
      · exact .inr ⟨e, _, .emit h₁, rfl, hr⟩

theorem Recorded.of_get {c : χ} {modules : List Nat} {t : List (Exchange χ)}
    {r : Except DacError (List Int32)} (h : Recorded (get c modules) t r) :
    ∃ answer, ∃ events : List Event,
      t = .read c modules answer :: events.map .reported ∧
        r = answer.mapError .communication := by
  cases h with
  | read answer events tail =>
    obtain ⟨rfl, hr⟩ := tail.of_ofAnswer
    exact ⟨answer, events, by simp, hr⟩

theorem Recorded.of_set {c : χ} {value : Int32} {modules : List Nat} {t : List (Exchange χ)}
    {r : Except DacError Unit} (h : Recorded (set c value modules) t r) :
    ∃ answer, ∃ events : List Event,
      t = .wrote c value modules answer :: events.map .reported ∧
        r = answer.mapError .communication := by
  cases h with
  | write answer events tail =>
    obtain ⟨rfl, hr⟩ := tail.of_ofAnswer
    exact ⟨answer, events, by simp, hr⟩

theorem Recorded.of_report {ev : Event} {t : List (Exchange χ)} {r : Except DacError Unit}
    (h : Recorded (report ev) t r) : t = [.reported ev] ∧ r = .ok () := by
  cases h with
  | emit tail =>
    cases tail
    exact ⟨rfl, rfl⟩

end Program

end DacBank
