import DacBank.Document.Toml.Scalar
import DacBank.Proofs.Text.Digits

namespace DacBank.Document.Toml

open Text

variable {ds : List Char}

theorem isWordChar_of_isDigit {c : Char} (hc : c.isDigit = true) : isWordChar c = true := by
  have hends : wordEnds.any Char.isDigit = false := by decide
  simp only [isWordChar, List.contains_eq_mem, Bool.not_eq_true', decide_eq_false_iff_not]
  intro hmem
  exact List.any_eq_false.mp hends c hmem hc

theorem scalarRun_word {w : List Char} (hw : ∀ c ∈ w, isWordChar c = true) (rest : List Char) :
    scalarRun (w ++ '\n' :: rest) = (w, '\n' :: rest) := by
  induction w with
  | nil => rfl
  | cons c w ih =>
    have hc : isWordChar c = true := hw c List.mem_cons_self
    have hlater : scalarRun (w ++ '\n' :: rest) = (w, '\n' :: rest) :=
      ih fun d hd => hw d (List.mem_cons_of_mem c hd)
    simp only [List.cons_append, scalarRun, hc, Bool.true_or, ↓reduceIte, hlater]

theorem readField_drop {k low high n : Nat} {s rest : List Char}
    (h : readField k low high s = some (n, rest)) : rest = s.drop k := by
  simp only [readField] at h
  split at h
  · split at h
    · exact (Prod.mk.inj (Option.some.inj h)).2.symm
    · cases h
  · cases h

theorem readField_minus (k low high : Nat) (s : List Char) :
    readField (k + 1) low high ('-' :: s) = none := by
  simp [readField]

theorem readMark_digits {m : Char} (hds : ∀ c ∈ ds, c.isDigit = true) (hm : m.isDigit = false) :
    readMark m ds = none := by
  cases ds with
  | nil => rfl
  | cons c ds =>
    have hc : c ≠ m := ne_of_isDigit (hds c List.mem_cons_self) hm
    simp [readMark, hc]

/-- No field of digits is followed by a mark. -/
theorem readMark_field {k low high n : Nat} {m : Char} {rest : List Char}
    (hds : ∀ c ∈ ds, c.isDigit = true) (hm : m.isDigit = false)
    (h : readField k low high ds = some (n, rest)) : readMark m rest = none := by
  rw [readField_drop h]
  exact readMark_digits (fun c hc => hds c (List.mem_of_mem_drop hc)) hm

theorem isMoment_digits (hds : ∀ c ∈ ds, c.isDigit = true) : isMoment ds = false := by
  have hdate : readDate ds = none := by
    unfold readDate
    cases h : readField 4 0 9999 ds with
    | none => rfl
    | some r => simp [readMark_field hds (m := '-') (by decide) h]
  have htime : readTime ds = none := by
    unfold readTime readHourMinute
    cases h : readField 2 0 23 ds with
    | none => rfl
    | some r => simp [readMark_field hds (m := ':') (by decide) h]
  simp [isMoment, hdate, htime]

theorem isMoment_minus (s : List Char) : isMoment ('-' :: s) = false := by
  have hdate : readDate ('-' :: s) = none := by
    simp [readDate, readField_minus]
  have htime : readTime ('-' :: s) = none := by
    simp [readTime, readHourMinute, readField_minus]
  simp [isMoment, hdate, htime]

theorem ungroup_digits {isDigit : Char → Bool} (hds : ∀ c ∈ ds, c ≠ '_') :
    ungroup isDigit ds = some ds := by
  induction ds with
  | nil => rfl
  | cons c ds ih =>
    have hc : c ≠ '_' := hds c List.mem_cons_self
    have hlater : ungroup isDigit ds = some ds := ih fun d hd => hds d (List.mem_cons_of_mem c hd)
    cases ds with
    | nil => simp [ungroup]
    | cons d ds =>
      have hd : d ≠ '_' := hds d (List.mem_cons_of_mem c List.mem_cons_self)
      simp [ungroup, hd, hlater]

/-- The digits of an integer as it is written: at least one, and a zero in front only alone. -/
theorem integer?_natDigits (negative : Bool) (n : Nat) :
    integer? ⟨negative, natDigits n⟩ = some (integerValue (withSign negative n)) := by
  have hgroups : ungroup isHexDigit (natDigits n) = some (natDigits n) := by
    apply ungroup_digits
    intro c hc
    exact ne_of_isDigit (isDigit_natDigits c hc) (by decide)
  have hall : (natDigits n).all Char.isDigit = true := List.all_eq_true.mpr isDigit_natDigits
  unfold integer?
  split
  next c cs htext => exact absurd (natDigits_eq_zero_cons htext) (List.cons_ne_nil c cs)
  next => simp only [hgroups, Option.map_some, hall, ↓reduceIte, natOfDigits_natDigits]

theorem number?_natDigits (negative : Bool) (n : Nat) :
    number? ⟨negative, natDigits n⟩ = some (integerValue (withSign negative n)) := by
  have hrest : (natDigits n ++ []).dropWhile Char.isDigit = [] :=
    List.dropWhile_append_of_pos isDigit_natDigits
  rw [List.append_nil] at hrest
  simp [number?, hrest, natDigits_ne_nil, integer?_natDigits]

theorem named?_digit {c : Char} (hc : c.isDigit = true) (s : List Char) :
    named? (c :: s) = none := by
  have ht : c ≠ 't' := ne_of_isDigit hc (by decide)
  have hf : c ≠ 'f' := ne_of_isDigit hc (by decide)
  have hi : c ≠ 'i' := ne_of_isDigit hc (by decide)
  have hn : c ≠ 'n' := ne_of_isDigit hc (by decide)
  simp [named?, readSign_digit hc, ht, hf, hi, hn]

theorem named?_minus_digit {c : Char} (hc : c.isDigit = true) (s : List Char) :
    named? ('-' :: c :: s) = none := by
  have hi : c ≠ 'i' := ne_of_isDigit hc (by decide)
  have hn : c ≠ 'n' := ne_of_isDigit hc (by decide)
  simp [named?, readSign, hi, hn]

theorem scalar?_natDigits (n : Nat) : scalar? (natDigits n) = some (integerValue n) := by
  obtain ⟨c, cs, h, hc⟩ := natDigits_cons n
  have hnamed : named? (natDigits n) = none := by
    rw [h]
    exact named?_digit hc cs
  have hmoment : isMoment (natDigits n) = false := isMoment_digits isDigit_natDigits
  have hnumeral : Numeral.ofText (natDigits n) = ⟨false, natDigits n⟩ := by
    rw [h, Numeral.ofText, readSign_digit hc]
  simp only [scalar?, hnamed, hmoment, Bool.false_eq_true, ↓reduceIte]
  split
  -- A zero in front stands alone, so no mark of a base can follow it.
  next ds htext => exact absurd (natDigits_eq_zero_cons htext) (List.cons_ne_nil _ ds)
  next ds htext => exact absurd (natDigits_eq_zero_cons htext) (List.cons_ne_nil _ ds)
  next ds htext => exact absurd (natDigits_eq_zero_cons htext) (List.cons_ne_nil _ ds)
  next => rw [hnumeral, number?_natDigits, withSign, if_neg Bool.false_ne_true]

theorem scalar?_minus_natDigits (n : Nat) :
    scalar? ('-' :: natDigits n) = some (integerValue (-n)) := by
  obtain ⟨c, cs, h, hc⟩ := natDigits_cons n
  have hnamed : named? ('-' :: natDigits n) = none := by
    rw [h]
    exact named?_minus_digit hc cs
  have hnumber : number? (.ofText ('-' :: natDigits n)) = some (integerValue (-n)) :=
    number?_natDigits true n
  simp only [scalar?, hnamed, isMoment_minus, Bool.false_eq_true, ↓reduceIte]
  exact hnumber

/-- Integers of 64 bits are far from having no type. -/
theorem integerValue_of_natAbs_lt {n : Int} (hn : n.natAbs < Nat.pow 2 64) :
    integerValue n = .integer n := by
  have h64 : Nat.pow 2 64 = 18446744073709551616 := rfl
  have hlow : -Int.ofNat (Nat.pow 2 127) ≤ n := by
    simp only [Int.ofNat_eq_natCast, Nat.pow_eq, Int.natCast_pow]
    omega
  have hhigh : n < Int.ofNat (Nat.pow 2 128) := by
    simp only [Int.ofNat_eq_natCast, Nat.pow_eq, Int.natCast_pow]
    omega
  rw [integerValue, if_pos ⟨hlow, hhigh⟩]

/-- An integer is read back up to the end of its line. -/
theorem readScalar_intDigits (n : Int) (rest : List Char) :
    readScalar (intDigits n ++ '\n' :: rest) = some (integerValue n, '\n' :: rest) := by
  have hdigits : ∀ c ∈ natDigits n.natAbs, isWordChar c = true := by
    intro c hc
    exact isWordChar_of_isDigit (isDigit_natDigits c hc)
  unfold intDigits
  by_cases hn : n < 0
  · have hrun : scalarRun ('-' :: natDigits n.natAbs ++ '\n' :: rest) =
        ('-' :: natDigits n.natAbs, '\n' :: rest) := by
      apply scalarRun_word
      intro c hc
      rcases List.mem_cons.mp hc with rfl | hc
      · decide
      · exact hdigits c hc
    have habs : -(n.natAbs : Int) = n := by omega
    simp only [hn, ↓reduceIte, readScalar, hrun, scalar?_minus_natDigits, habs, Option.map_some]
  · have habs : (n.natAbs : Int) = n := by omega
    simp only [hn, ↓reduceIte, readScalar, scalarRun_word hdigits rest, scalar?_natDigits, habs,
      Option.map_some]

end DacBank.Document.Toml
