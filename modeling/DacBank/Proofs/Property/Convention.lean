import DacBank.Proofs.Property.Reply

namespace DacBank

namespace Exchange

variable {χ : Type}

/-- The channel and the modules of a read or a write. -/
@[simp] def access? : Exchange χ → Option (χ × List Nat)
  | .read c modules _ => some (c, modules)
  | .wrote c _ modules _ => some (c, modules)
  | _ => none

/-- The reads and writes of a record, by what they address. -/
def accesses (t : List (Exchange χ)) : List (χ × List Nat) :=
  t.filterMap access?

/-- Modules that a call to a detector of `count` modules may name. -/
structure Callable (count : Nat) (modules : List Nat) : Prop where
  nonempty : modules ≠ []
  ascending : modules.Pairwise (· < ·)
  below : ∀ m ∈ modules, m < count

/-- Every read and every write keeps the convention: the number of modules is the one that was told
last before it. -/
def Conventional (t : List (Exchange χ)) : Prop :=
  ∀ before x after, t = before ++ x :: after → ∀ c modules, x.access? = some (c, modules) →
    ∃ count, (counts before).getLast? = some count ∧ Callable count modules

section
variable (x : Exchange χ) (t u : List (Exchange χ)) (events : List Event)

@[simp] theorem accesses_nil : accesses ([] : List (Exchange χ)) = [] :=
  rfl

@[simp] theorem accesses_cons : accesses (x :: t) = x.access?.toList ++ accesses t := by
  cases x <;> rfl

@[simp] theorem accesses_append : accesses (t ++ u) = accesses t ++ accesses u :=
  List.filterMap_append ..

@[simp] theorem accesses_reported : accesses (events.map (reported (χ := χ))) = [] := by
  simp [accesses]

end

theorem mem_accesses {x : Exchange χ} {t : List (Exchange χ)} {a : χ × List Nat} (hx : x ∈ t)
    (ha : x.access? = some a) : a ∈ accesses t :=
  List.mem_filterMap.mpr ⟨x, hx, ha⟩

theorem accesses_of_reads_nil {t : List (Exchange χ)} (h : reads t = []) :
    accesses t = (writes t).map fun w => (w.1.channel, w.1.modules) := by
  induction t with
  | nil => rfl
  | cons x t ih =>
    rw [reads_cons, List.append_eq_nil_iff] at h
    rw [accesses_cons, writes_cons, List.map_append, ih h.2]
    cases x with
    | read c modules answer => simp at h
    | counted n | wrote c value modules answer | reported event => rfl

theorem Conventional.append {t u : List (Exchange χ)} (ht : Conventional t)
    (hu : Conventional u) : Conventional (t ++ u) := by
  intro before x after hsplit c modules hx
  rcases List.append_eq_append_iff.mp hsplit with ⟨mid, rfl, hu'⟩ | ⟨mid, ht', hmid⟩
  · obtain ⟨count, hcount, hcall⟩ := hu mid x after hu' c modules hx
    exact ⟨count, by rw [counts_append, List.getLast?_append, hcount, Option.some_or], hcall⟩
  · cases mid with
    | nil =>
      -- The call would be the first line of `u`, where no number has been told yet.
      obtain ⟨count, hcount, _⟩ := hu [] x after hmid.symm c modules hx
      cases hcount
    | cons y mid =>
      obtain ⟨rfl, _⟩ := List.cons.inj hmid
      exact ht before x mid ht' c modules hx

theorem conventional_of_quiet {t : List (Exchange χ)} (h : accesses t = []) : Conventional t := by
  rintro before x after rfl c modules hx
  have hmem := mem_accesses (t := before ++ x :: after) (by simp) hx
  rw [h] at hmem
  cases hmem

/-- One number told in front of calls that it allows. -/
theorem conventional_counted {n : Nat} {u : List (Exchange χ)} (hcounts : counts u = [])
    (h : ∀ a ∈ accesses u, Callable n a.2) : Conventional (.counted n :: u) := by
  intro before x after hsplit c modules hx
  cases before with
  | nil =>
    obtain ⟨rfl, _⟩ := List.cons.inj hsplit
    cases hx
  | cons y before =>
    obtain ⟨rfl, hu⟩ := List.cons.inj hsplit
    change u = before ++ x :: after at hu
    subst hu
    rw [counts_append, List.append_eq_nil_iff] at hcounts
    exact ⟨n, by simp [hcounts.1], h (c, modules) (mem_accesses (by simp) hx)⟩

end Exchange

namespace Selector

/-- Resolved modules stand in ascending order, and the detector has them all. -/
theorem resolve_ok {selector : Selector} {count : Nat} {modules : List Nat}
    (h : selector.resolve count = .ok modules) :
    modules.Pairwise (· < ·) ∧ ∀ m ∈ modules, m < count := by
  cases selector with
  | all =>
    cases h
    exact ⟨List.pairwise_lt_range, fun m hm => List.mem_range.mp hm⟩
  | modules list =>
    rw [resolve] at h
    split at h
    · cases h
    · rename_i hnone
      cases h
      refine ⟨pairwise_ascending list, fun m hm => ?_⟩
      simpa using List.find?_eq_none.mp hnone m hm

end Selector

namespace Property

open Program Exchange

variable {χ : Type}

/-- The record of one operation of a property: a number of modules, then calls to the channel that
this number allows. -/
def Asked (c : χ) (t : List (Exchange χ)) : Prop :=
  ∃ n u, t = .counted n :: u ∧ counts u = [] ∧ ∀ a ∈ accesses u, a.1 = c ∧ Callable n a.2

theorem Asked.conventional {c : χ} {t : List (Exchange χ)} (h : Asked c t) : Conventional t := by
  obtain ⟨n, u, rfl, hcounts, hu⟩ := h
  exact conventional_counted hcounts fun a ha => (hu a ha).2

theorem Asked.channel {c : χ} {t : List (Exchange χ)} (h : Asked c t) :
    ∀ a ∈ accesses t, a.1 = c := by
  obtain ⟨n, u, rfl, _, hu⟩ := h
  intro a ha
  exact (hu a (by simpa using ha)).1

theorem read_asked {p : Property χ} {selector : Selector} {t : List (Exchange χ)}
    {r : Except DacError (List Int32)} (h : Recorded (p.read selector) t r) :
    Asked p.channel t := by
  obtain ⟨n, u, rfl, hend⟩ := read_recorded h
  refine ⟨n, u, rfl, ?_⟩
  rcases hend with ⟨e, _, rfl, _⟩ | ⟨_, rfl, _⟩ | ⟨modules, answer, events, hm, hne, rfl, _⟩
  · exact ⟨rfl, by simp⟩
  · exact ⟨rfl, by simp⟩
  · obtain ⟨hasc, hlt⟩ := Selector.resolve_ok hm
    refine ⟨by simp, fun a ha => ?_⟩
    obtain rfl : a = (p.channel, modules) := by simpa using ha
    exact ⟨rfl, hne, hasc, hlt⟩

theorem render_asked {p : Property χ} {selector : Selector} {t : List (Exchange χ)}
    {r : Except DacError String} (h : Recorded (p.render selector) t r) :
    Asked p.channel t := by
  obtain ⟨_, hread, _⟩ := render_recorded h
  exact read_asked hread

theorem wanted_callable {c : χ} {n : Nat} {modules : List Nat} {payload : Payload}
    (hasc : modules.Pairwise (· < ·)) (hlt : ∀ m ∈ modules, m < n) :
    ∀ w ∈ wanted c modules payload, Callable n w.modules := by
  intro w hw
  rcases mem_wanted hw with ⟨value, _, hne, rfl⟩ | ⟨values, x, _, hx, rfl⟩
  · exact ⟨hne, hasc, hlt⟩
  · refine ⟨List.cons_ne_nil x.1 [], List.pairwise_singleton .., fun m hm => ?_⟩
    rw [List.mem_singleton.mp hm]
    exact hlt x.1 (List.of_mem_zip hx).1

theorem write_asked {p : Property χ} {selector : Selector} {payload : Payload}
    {t : List (Exchange χ)} {r : Except DacError Unit}
    (h : Recorded (p.write selector payload) t r) : Asked p.channel t := by
  obtain ⟨k, u, rfl, _⟩ := of_select_bind h
  obtain ⟨n, hreads, hcounts, hend⟩ := write_recorded h
  obtain ⟨rfl, hu⟩ : k = n ∧ counts u = [] := by simpa using hcounts
  refine ⟨k, u, rfl, hu, ?_⟩
  have hu' : reads u = [] := by simpa using hreads
  rw [accesses_of_reads_nil hu']
  intro a ha
  obtain ⟨w, hw, rfl⟩ := List.mem_map.mp ha
  have hw' : w ∈ writes (.counted k :: u) := by simpa using hw
  rcases hend with ⟨e, _, hnone, _⟩ | ⟨modules, hm, ⟨values, _, _, hnone, _⟩ | ⟨_, hp⟩⟩
  · simp [hnone] at hw'
  · simp [hnone] at hw'
  · obtain ⟨hasc, hlt⟩ := Selector.resolve_ok hm
    exact ⟨hp.forall_writes wanted_channel w hw',
      hp.forall_writes (wanted_callable hasc hlt) w hw'⟩

end Property

end DacBank
