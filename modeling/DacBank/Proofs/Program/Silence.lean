import DacBank.Detector

namespace DacBank

/-- Whether a line of a record is the report of a hidden event. -/
def Exchange.isHidden {χ : Type} (hidden : Event → Bool) (x : Exchange χ) : Bool :=
  x.event?.any hidden

/-- An outcome without the hidden reports in its record. -/
def Outcome.silence {χ σ α : Type} (hidden : Event → Bool) (o : Outcome χ σ α) : Outcome χ σ α :=
  { o with record := o.record.filter fun x => !x.isHidden hidden }

@[simp] theorem Outcome.silence_state {χ σ α : Type} (hidden : Event → Bool)
    (o : Outcome χ σ α) : (o.silence hidden).state = o.state :=
  rfl

namespace Program

variable {χ σ α β : Type} (hidden : Event → Bool)

/-- Leaves out the hidden reports and keeps everything else. -/
def silence : Program χ α → Program χ α
  | .done a => .done a
  | .fail e => .fail e
  | .count next => .count fun n => (next n).silence
  | .read c modules next => .read c modules fun answer => (next answer).silence
  | .write c value modules next => .write c value modules fun answer => (next answer).silence
  | .emit ev next => if hidden ev then next.silence else .emit ev next.silence

theorem silence_bind (p : Program χ α) (f : α → Program χ β) :
    (p >>= f).silence hidden = p.silence hidden >>= fun a => (f a).silence hidden := by
  change (p.bind f).silence hidden = (p.silence hidden).bind _
  induction p with
  | done a | fail e => rfl
  | count next ih | read c modules next ih | write c value modules next ih =>
    simp only [bind, silence, ih]
  | emit ev next ih =>
    simp only [bind, silence, ih]
    split <;> rfl

theorem silence_after (earlier : List (Exchange χ)) (o : Outcome χ σ α) :
    (o.after earlier).silence hidden =
      (o.silence hidden).after (earlier.filter fun x => !x.isHidden hidden) := by
  simp only [Outcome.after, Outcome.silence, List.filter_append]

/-- The detector is asked the same and answers the same. -/
theorem silence_run (d : Detector χ σ) (p : Program χ α) (s : σ) :
    ((p.silence hidden).run d s).silence hidden = (p.run d s).silence hidden := by
  induction p generalizing s with
  | done a | fail e => rfl
  | count next ih | read c modules next ih | write c value modules next ih =>
    simp only [silence, run, silence_after, ih]
  | emit ev next ih =>
    by_cases hev : hidden ev
    · have hgone : [(.reported ev : Exchange χ)].filter (fun x => !x.isHidden hidden) = [] := by
        simp [Exchange.isHidden, Exchange.event?, hev]
      rw [silence, if_pos hev, ih, run, silence_after, hgone]
      rfl
    · rw [silence, if_neg hev, run, run, silence_after, silence_after, ih]

/-- The two programs are the same but for the hidden reports. -/
def Alike (p p' : Program χ α) : Prop :=
  p.silence hidden = p'.silence hidden

variable {hidden}

theorem Alike.rfl {p : Program χ α} : Alike hidden p p :=
  Eq.refl _

theorem Alike.run {p p' : Program χ α} (h : Alike hidden p p') (d : Detector χ σ) (s : σ) :
    (p.run d s).silence hidden = (p'.run d s).silence hidden := by
  rw [← silence_run hidden d p, ← silence_run hidden d p', h]

theorem Alike.bind {p p' : Program χ α} {f f' : α → Program χ β} (hp : Alike hidden p p')
    (hf : ∀ a, Alike hidden (f a) (f' a)) : Alike hidden (p >>= f) (p' >>= f') := by
  rw [Alike, silence_bind, silence_bind, hp]
  exact congrArg _ (funext hf)

theorem Alike.map {p p' : Program χ α} (hp : Alike hidden p p') (f : α → β) :
    Alike hidden (f <$> p) (f <$> p') :=
  hp.bind fun _ => .rfl

/-- A hidden report may stand in front. -/
theorem Alike.report_bind {p p' : Program χ α} (hp : Alike hidden p p') {ev : Event}
    (hev : hidden ev = true) : Alike hidden (report ev >>= fun _ => p) p' := by
  change Alike hidden (.emit ev p) p'
  rw [Alike, silence, if_pos hev, hp]

/-- Two loops over things that belong together, with alike rounds. -/
theorem Alike.forM {ι : Type} (l : List ι) (g : ι → ι) {f : ι → Program χ Unit}
    (hf : ∀ x, Alike hidden (f (g x)) (f x)) : Alike hidden (forM (l.map g) f) (forM l f) := by
  induction l with
  | nil => exact .rfl
  | cons x rest ih => exact (hf x).bind fun _ => ih

end Program

end DacBank
