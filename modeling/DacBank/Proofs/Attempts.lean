namespace DacBank

section
variable {ε α β : Type}

@[simp] theorem attempt_pure (a : α) : (pure a : Except ε α) = .ok a :=
  rfl

@[simp] theorem attempt_ok_bind (a : α) (f : α → Except ε β) : (Except.ok a >>= f) = f a :=
  rfl

@[simp] theorem attempt_error_bind (e : ε) (f : α → Except ε β) :
    (Except.error e >>= f) = .error e :=
  rfl

theorem attempt_bind_ok {x : Except ε α} {f : α → Except ε β} {b : β} :
    (x >>= f) = .ok b ↔ ∃ a, x = .ok a ∧ f a = .ok b := by
  cases x <;> simp

theorem attempt_bind_error {x : Except ε α} {f : α → Except ε β} {e : ε} :
    (x >>= f) = .error e ↔ x = .error e ∨ ∃ a, x = .ok a ∧ f a = .error e := by
  cases x <;> simp

theorem attempt_map_ok {x : Except ε α} {f : α → β} {b : β} :
    f <$> x = .ok b ↔ ∃ a, x = .ok a ∧ f a = b := by
  cases x <;> simp [Functor.map, Except.map]

theorem mapError_ok_iff {ε' : Type} {x : Except ε α} {g : ε → ε'} {a : α} :
    x.mapError g = .ok a ↔ x = .ok a := by
  cases x with
  | ok b =>
    constructor
    · rintro ⟨⟩
      rfl
    · rintro ⟨⟩
      rfl
  | error e => exact ⟨nofun, nofun⟩

theorem mapError_error_iff {ε' : Type} {x : Except ε α} {g : ε → ε'} {e' : ε'} :
    x.mapError g = .error e' ↔ ∃ e, x = .error e ∧ e' = g e := by
  cases x with
  | ok b => exact ⟨nofun, nofun⟩
  | error e =>
    constructor
    · rintro ⟨⟩
      exact ⟨e, rfl, rfl⟩
    · rintro ⟨_, ⟨⟩, rfl⟩
      rfl

theorem mapM_mapError {ε' : Type} (f : α → Except ε β) (g : ε → ε') (as : List α) :
    (as.mapM fun a => (f a).mapError g) = (as.mapM f).mapError g := by
  induction as with
  | nil => rfl
  | cons a as ih =>
    rw [List.mapM_cons, List.mapM_cons, ih]
    cases f a with
    | error e => rfl
    | ok b => cases as.mapM f <;> rfl

/-- All attempts succeed together if each of them does. -/
theorem mapM_ok_iff_map {f : α → Except ε β} {as : List α} {bs : List β} :
    as.mapM f = .ok bs ↔ as.map f = bs.map .ok := by
  induction as generalizing bs with
  | nil => cases bs <;> simp
  | cons a as ih =>
    rw [List.mapM_cons, attempt_bind_ok, List.map_cons]
    constructor
    · rintro ⟨b, hb, hrun⟩
      obtain ⟨rest, hrest, hbs⟩ := attempt_bind_ok.mp hrun
      cases hbs
      rw [List.map_cons, hb, ih.mp hrest]
    · intro h
      cases bs with
      | nil => cases h
      | cons b rest =>
        obtain ⟨hb, hrest⟩ := List.cons.inj h
        exact ⟨b, hb, attempt_bind_ok.mpr ⟨rest, ih.mpr hrest, rfl⟩⟩

/-- The error of a sequence of attempts is that of the first one which fails. -/
theorem mapM_error_iff {f : α → Except ε β} {as : List α} {e : ε} :
    as.mapM f = .error e ↔
      ∃ before a after, as = before ++ a :: after ∧ (∀ x ∈ before, ∃ b, f x = .ok b) ∧
        f a = .error e := by
  induction as with
  | nil => simp
  | cons a as ih =>
    rw [List.mapM_cons, attempt_bind_error]
    constructor
    · rintro (ha | ⟨b, hb, hrun⟩)
      · exact ⟨[], a, as, rfl, nofun, ha⟩
      · obtain ⟨before, x, after, rfl, hbefore, hx⟩ :=
          ih.mp ((attempt_bind_error.mp hrun).resolve_right nofun)
        exact ⟨a :: before, x, after, rfl, List.forall_mem_cons.mpr ⟨⟨b, hb⟩, hbefore⟩, hx⟩
    · rintro ⟨before, x, after, hsplit, hbefore, hx⟩
      cases before with
      | nil =>
        obtain ⟨rfl, rfl⟩ := List.cons.inj hsplit
        exact .inl hx
      | cons y before =>
        obtain ⟨rfl, rfl⟩ := List.cons.inj hsplit
        obtain ⟨⟨b, hb⟩, hrest⟩ := List.forall_mem_cons.mp hbefore
        refine .inr ⟨b, hb, attempt_bind_error.mpr (.inl ?_)⟩
        exact ih.mpr ⟨before, x, after, rfl, hrest, hx⟩

theorem length_of_mapM_ok {f : α → Except ε β} {as : List α} {bs : List β}
    (h : as.mapM f = .ok bs) : bs.length = as.length := by
  have hmaps := congrArg List.length (mapM_ok_iff_map.mp h)
  rw [List.length_map, List.length_map] at hmaps
  exact hmaps.symm

/-- When each attempt has one outcome and a condition for it, so have all of them together. -/
theorem mapM_ok_iff {f : α → Except ε β} {good : α → Prop} {g : α → β}
    (h : ∀ a b, f a = .ok b ↔ good a ∧ b = g a) {as : List α} {bs : List β} :
    as.mapM f = .ok bs ↔ (∀ a ∈ as, good a) ∧ bs = as.map g := by
  induction as generalizing bs with
  | nil => simp [eq_comm]
  | cons a as ih =>
    rw [List.mapM_cons, attempt_bind_ok, List.forall_mem_cons, List.map_cons]
    constructor
    · rintro ⟨b, hb, hrun⟩
      obtain ⟨rest, hrest, hbs⟩ := attempt_bind_ok.mp hrun
      obtain ⟨ha, rfl⟩ := (h a b).mp hb
      obtain ⟨has, rfl⟩ := ih.mp hrest
      cases hbs
      exact ⟨⟨ha, has⟩, rfl⟩
    · rintro ⟨⟨ha, has⟩, rfl⟩
      exact ⟨g a, (h a _).mpr ⟨ha, rfl⟩, attempt_bind_ok.mpr ⟨_, ih.mpr ⟨has, rfl⟩, rfl⟩⟩

/-- What is made of each outcome may as well be made of all of them in the end. -/
theorem mapM_bind_ok {γ : Type} (f : α → Except ε β) (g : α → β → γ) (as : List α) :
    (as.mapM fun a => f a >>= fun b => .ok (g a b)) =
      as.mapM f >>= fun bs => .ok (List.zipWith g as bs) := by
  induction as with
  | nil => rfl
  | cons a as ih =>
    rw [List.mapM_cons, List.mapM_cons, ih]
    cases f a with
    | error e => rfl
    | ok b => cases as.mapM f <;> rfl

end

end DacBank
