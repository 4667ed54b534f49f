import DacBank.Text.Reader

namespace DacBank.Text.Reader

variable {α β : Type} {item : Reader α} {s rest stop : List Char} {as bs : List α}

/-- Some items one after another, each of at least one character, and the text behind them. -/
inductive Takes (item : Reader α) : List Char → List α → List Char → Prop where
  | done (s : List Char) : Takes item s [] s
  | next {s u rest : List Char} {a : α} {as : List α} (taken : item s = some (a, u))
      (shorter : u.length < s.length) (later : Takes item u as rest) : Takes item s (a :: as) rest

theorem Takes.trans (h : Takes item s as rest) (h' : Takes item rest bs stop) :
    Takes item s (as ++ bs) stop := by
  induction h with
  | done s => exact h'
  | next taken shorter later ih => exact .next taken shorter (ih h')

theorem Takes.one {a : α} (taken : item s = some (a, rest)) (shorter : rest.length < s.length) :
    Takes item s [a] rest :=
  .next taken shorter (.done rest)

/-- Items that are read back from what is written for each of them are read back from what is
written for all. -/
theorem Takes.flatMap {write : α → List Char} (as : List α)
    (hread : ∀ a ∈ as, ∀ rest, item (write a ++ rest) = some (a, rest))
    (hwrite : ∀ a ∈ as, write a ≠ []) (rest : List Char) :
    Takes item (as.flatMap write ++ rest) as rest := by
  induction as with
  | nil => exact .done rest
  | cons a as ih =>
    rw [List.flatMap_cons, List.append_assoc]
    have hlen : 0 < (write a).length := List.length_pos_iff.mpr (hwrite a List.mem_cons_self)
    refine .next (hread a List.mem_cons_self _) ?_ (ih ?_ ?_)
    · simp only [List.length_append]
      omega
    · intro b hb
      exact hread b (List.mem_cons_of_mem a hb)
    · intro b hb
      exact hwrite b (List.mem_cons_of_mem a hb)

theorem Takes.manyUpTo (h : Takes item s as rest) (hstop : item rest = none) {n : Nat}
    (hn : s.length ≤ n) : manyUpTo item n s = (as, rest) := by
  induction h generalizing n with
  | done s =>
    cases n with
    | zero => rfl
    | succ n => simp only [Reader.manyUpTo, hstop]
  | next taken shorter later ih =>
    obtain ⟨n, rfl⟩ : ∃ k, n = k + 1 := ⟨n - 1, by omega⟩
    simp only [Reader.manyUpTo, taken, ih hstop (by omega : _ ≤ n)]

/-- The length of a text is enough of a bound. -/
theorem Takes.many (h : Takes item s as rest) (hstop : item rest = none) :
    many item s = (as, rest) :=
  h.manyUpTo hstop (Nat.le_refl _)

end DacBank.Text.Reader
