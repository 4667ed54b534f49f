import DacBank.Property

namespace DacBank

namespace Program

variable {χ α β : Type}

/-- There is no write on any branch. -/
def ReadsOnly : Program χ α → Prop
  | .done _ => True
  | .fail _ => True
  | .count next => ∀ n, (next n).ReadsOnly
  | .read _ _ next => ∀ answer, (next answer).ReadsOnly
  | .write .. => False
  | .emit _ next => next.ReadsOnly

theorem ReadsOnly.ofExcept (x : Except DacError α) :
    (Program.ofExcept x : Program χ α).ReadsOnly := by
  cases x <;> trivial

theorem ReadsOnly.moduleCount : (Program.moduleCount : Program χ Nat).ReadsOnly :=
  fun _ => trivial

theorem ReadsOnly.get (c : χ) (modules : List Nat) : (Program.get c modules).ReadsOnly := by
  intro answer
  cases answer <;> trivial

theorem ReadsOnly.bind {p : Program χ α} {f : α → Program χ β} (hp : p.ReadsOnly)
    (hf : ∀ a, (f a).ReadsOnly) : (p >>= f).ReadsOnly := by
  change (p.bind f).ReadsOnly
  induction p with
  | done a => exact hf a
  | fail e => trivial
  | count next ih => exact fun n => ih n (hp n)
  | read c modules next ih => exact fun answer => ih answer (hp answer)
  | write c value modules next ih => exact hp.elim
  | emit ev next ih => exact ih hp

theorem ReadsOnly.map {p : Program χ α} (hp : p.ReadsOnly) (f : α → β) : (f <$> p).ReadsOnly :=
  hp.bind fun _ => trivial

theorem ReadsOnly.mapM {ι : Type} (l : List ι) {f : ι → Program χ α}
    (hf : ∀ x, (f x).ReadsOnly) : (l.mapM f).ReadsOnly := by
  induction l with
  | nil => trivial
  | cons x rest ih =>
    rw [List.mapM_cons]
    exact (hf x).bind fun _ => ih.bind fun _ => trivial

end Program

namespace Property

open Program

variable {χ : Type}

theorem read_readsOnly (p : Property χ) (selector : Selector) : (p.read selector).ReadsOnly := by
  have hselect : (select selector : Program χ _).ReadsOnly :=
    ReadsOnly.moduleCount.bind fun count => .ofExcept (selector.resolve count)
  refine hselect.bind fun modules => ?_
  split
  · trivial
  · refine (ReadsOnly.get p.channel modules).bind fun values => ?_
    split <;> trivial

theorem render_readsOnly (p : Property χ) (selector : Selector) : (p.render selector).ReadsOnly :=
  (p.read_readsOnly selector).bind fun _ => trivial

end Property

end DacBank
