import DacBank.Text.Decimal
import DacBank.Text.Hex

namespace DacBank.Text

theorem natOfDigits_natDigits (n : Nat) : natOfDigits (natDigits n) = n :=
  Nat.ofDigitChars_ten_toDigits

theorem natDigits_ne_nil (n : Nat) : natDigits n ≠ [] :=
  Nat.toDigits_ne_nil

theorem isDigit_natDigits {n : Nat} : ∀ c ∈ natDigits n, c.isDigit = true := by
  intro c hc
  exact Nat.isDigit_of_mem_toDigits (by decide) (by decide) hc

theorem ne_of_isDigit {c d : Char} (hc : c.isDigit = true) (hd : d.isDigit = false) : c ≠ d := by
  rintro rfl
  rw [hc] at hd
  cases hd

/-- The first digit of a number, which no reader takes for anything else. -/
theorem natDigits_cons (n : Nat) :
    ∃ c cs, natDigits n = c :: cs ∧ c.isDigit = true := by
  obtain ⟨c, cs, h⟩ := List.exists_cons_of_ne_nil (natDigits_ne_nil n)
  exact ⟨c, cs, h, isDigit_natDigits c (by rw [h]; exact List.mem_cons_self)⟩

/-- Only zero itself has a zero in front. -/
theorem natDigits_eq_zero_cons {n : Nat} {ds : List Char} (h : natDigits n = '0' :: ds) :
    ds = [] := by
  induction n using Nat.strongRecOn generalizing ds with
  | ind n ih =>
    unfold natDigits at h
    by_cases hn : n < 10
    · rw [Nat.toDigits_of_lt_base hn] at h
      exact (List.cons.inj h).2.symm
    · rw [Nat.toDigits_of_base_le (by decide) (by omega)] at h
      cases hq : natDigits (n / 10) with
      | nil => exact absurd hq (natDigits_ne_nil _)
      | cons c cs =>
        unfold natDigits at hq
        rw [hq, List.cons_append] at h
        obtain ⟨rfl, _⟩ := List.cons.inj h
        have hcs : cs = [] := ih (n / 10) (by omega) hq
        have hzero : n / 10 = 0 := by
          have hread := natOfDigits_natDigits (n / 10)
          rw [natDigits, hq, hcs] at hread
          exact hread.symm
        omega

theorem readSign_digit {c : Char} (hc : c.isDigit = true) (s : List Char) :
    readSign (c :: s) = (false, c :: s) := by
  have hminus : c ≠ '-' := ne_of_isDigit hc (by decide)
  have hplus : c ≠ '+' := ne_of_isDigit hc (by decide)
  simp [readSign, hminus, hplus]

theorem intDigits_front (n : Int) :
    ∃ c rest, intDigits n = c :: rest ∧ (c = '-' ∨ c.isDigit = true) := by
  unfold intDigits
  by_cases hn : n < 0
  · simp only [hn, ↓reduceIte]
    exact ⟨'-', _, rfl, .inl rfl⟩
  · obtain ⟨c, cs, h, hc⟩ := natDigits_cons n.natAbs
    simp only [hn, ↓reduceIte]
    exact ⟨c, cs, h, .inr hc⟩

theorem readSign_intDigits (n : Int) :
    readSign (intDigits n) = (decide (n < 0), natDigits n.natAbs) := by
  unfold intDigits
  by_cases hn : n < 0
  · simp [hn, readSign]
  · obtain ⟨c, cs, h, hc⟩ := natDigits_cons n.natAbs
    simp only [hn, ↓reduceIte, decide_false]
    rw [h, readSign_digit hc]

theorem length_natDigits_le {n k : Nat} (pos : 0 < k) (h : n < Nat.pow 10 k) :
    (natDigits n).length ≤ k :=
  (Nat.length_toDigits_le_iff (by decide) pos).mpr h

theorem hexValue?_upperHex {n : Nat} (hn : n < 16) : hexValue? (upperHex n) = some n := by
  revert n
  decide

theorem hexValue?_lowerHex {n : Nat} (hn : n < 16) : hexValue? (lowerHex n) = some n := by
  revert n
  decide

theorem readHex_fourHex {digit : Nat → Char} (hdigit : ∀ n < 16, hexValue? (digit n) = some n)
    {n : Nat} (hn : n < 65536) (rest : List Char) :
    readHex 4 (fourHex digit n ++ rest) = some (n, rest) := by
  have h₃ := hdigit (n / 4096 % 16) (by omega)
  have h₂ := hdigit (n / 256 % 16) (by omega)
  have h₁ := hdigit (n / 16 % 16) (by omega)
  have h₀ := hdigit (n % 16) (by omega)
  have hn' : 16 * (16 * (16 * (16 * 0 + n / 4096 % 16) + n / 256 % 16) + n / 16 % 16) + n % 16 =
      n := by
    omega
  simp only [readHex, readHexFrom, fourHex, List.cons_append, List.nil_append, h₃, h₂, h₁, h₀, hn']

/-- A character is read back from the four digits of its number. -/
theorem readHexChar_fourHex {c : Char} (hc : c.toNat < 65536) (rest : List Char) :
    readHexChar 4 (fourHex upperHex c.toNat ++ rest) = some (c, rest) := by
  have hvalid : c.toNat.isValidChar := c.valid
  simp only [readHexChar, readHex_fourHex (fun _ => hexValue?_upperHex) hc, charOf?, hvalid,
    ↓reduceIte, Char.ofNat_toNat]

end DacBank.Text
