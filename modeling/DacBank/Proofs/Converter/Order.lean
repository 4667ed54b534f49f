import DacBank.Proofs.Converter.Accepted

namespace DacBank

namespace Numeric

theorem Fits53.neg {x : Rat} (hx : Fits53 x) : Fits53 (-x) := by
  obtain ⟨m, e, hm, rfl⟩ := hx
  exact ⟨-m, e, by rwa [abs_neg], by rw [Int.cast_neg, neg_mul]⟩

theorem Fits53.quarter {n : Int} (h : |n| ≤ 2 ^ 53) : Fits53 (n / 4) :=
  ⟨n, -2, h, by rw [twoPow_eq, div_eq_mul_inv]; norm_num⟩

theorem Fits53.mul_twoPow {n : Int} (h : |n| ≤ 2 ^ 53) (k : Nat) : Fits53 (n * 2 ^ k) :=
  ⟨n, k, h, by rw [twoPow_eq, zpow_natCast]⟩

theorem abs_round53_le {x y : Rat} (hy : Fits53 y) (h : |x| ≤ y) : |round53 x| ≤ y := by
  obtain ⟨low, high⟩ := abs_le.mp h
  exact abs_le.mpr ⟨le_round53 hy.neg low, round53_le hy high⟩

theorem saturate_eq_clamp (n : Int) :
    (saturate n).toInt = max (-2 ^ 31) (min n (2 ^ 31 - 1)) := by
  have hmin : Int32.minValue.toInt = -2 ^ 31 := rfl
  have hmax : Int32.maxValue.toInt = 2 ^ 31 - 1 := rfl
  rw [saturate]
  split
  · omega
  split
  · omega
  · rw [Int32.toInt_ofInt_of_le (by omega) (by omega)]
    omega

theorem saturate_mono {m n : Int} (h : m ≤ n) : saturate m ≤ saturate n := by
  rw [Int32.le_iff_toInt_le, saturate_eq_clamp, saturate_eq_clamp]
  omega

end Numeric

open Numeric

namespace Range

variable {x y : Rat}

/-- A point whose fraction is dropped is far below the next half. -/
theorem fraction_of_not_threshold (h : ¬roundingThreshold < round53 (y - ⌊y⌋)) :
    y < ⌊y⌋ + 1 / 4 := by
  by_contra hlarge
  have hquarter : Fits53 (1 / 4) := by
    simpa using Fits53.quarter (n := 1) (by norm_num)
  have hthreshold : roundingThreshold < 1 / 4 := by decide +kernel
  exact h (hthreshold.trans_le (le_round53 hquarter (by linarith)))

/-- Points at and above zero. The half is added to the one and not to the other in two ways, and in
neither of them do the integers change places. -/
theorem rounded_mono_of_nonneg (nonneg : 0 ≤ x) (h : x ≤ y) (near : y ≤ 2 ^ 50) :
    rounded x ≤ rounded y := by
  have hy : 0 ≤ y := nonneg.trans h
  have hsum : 0 ≤ round53 (x + 1 / 2) := le_round53 Fits53.zero (by linarith)
  rw [rounded, rounded, truncate_of_nonneg nonneg, truncate_of_nonneg hy]
  split
  · have hround : round53 (x + 1 / 2) ≤ round53 (y + 1 / 2) := round53_mono (by linarith)
    rw [truncate_of_nonneg hsum]
    split
    · rw [truncate_of_nonneg (hsum.trans hround)]
      exact Int.floor_le_floor hround
    · rename_i hdrop
      have hfraction := fraction_of_not_threshold hdrop
      have hfloor : 0 ≤ ⌊y⌋ := Int.floor_nonneg.mpr hy
      have hsmall : ⌊y⌋ ≤ 2 ^ 50 := by
        exact_mod_cast (Int.floor_le y).trans near
      have hfits : Fits53 (((4 * ⌊y⌋ + 3 : Int) : Rat) / 4) :=
        Fits53.quarter (abs_le.mpr (by omega))
      have hbelow : round53 (x + 1 / 2) ≤ ((4 * ⌊y⌋ + 3 : Int) : Rat) / 4 :=
        round53_le hfits (by push_cast; linarith)
      rw [← Int.lt_add_one_iff, Int.floor_lt]
      push_cast at hbelow ⊢
      linarith
  · split
    · rw [truncate_of_nonneg (le_round53 Fits53.zero (by linarith))]
      exact (Int.floor_le_floor (by linarith)).trans
        (floor_le_floor_round53 hy (near.trans (by norm_num)))
    · exact Int.floor_le_floor h

theorem rounded_mono (h : x ≤ y) (near : y ≤ 2 ^ 50) : rounded x ≤ rounded y := by
  rcases le_total 0 x with hx | hx
  · exact rounded_mono_of_nonneg hx h near
  rcases le_total 0 y with hy | hy
  · calc rounded x
        = ⌈x⌉ := rounded_of_nonpos hx
      _ ≤ 0 := Int.ceil_le.mpr (by simpa using hx)
      _ ≤ ⌊y + 1 / 2⌋ := Int.floor_nonneg.mpr (by linarith)
      _ ≤ rounded y := floor_le_rounded hy (near.trans (by norm_num))
  · rw [rounded_of_nonpos hx, rounded_of_nonpos hy]
    exact Int.ceil_le_ceil h

theorem toInteger_mono (h : x ≤ y) (near : y ≤ 2 ^ 50) : toInteger x ≤ toInteger y := by
  rw [toInteger_eq, toInteger_eq]
  exact saturate_mono (rounded_mono h near)

section
variable {inLow inHigh outLow outHigh v w : Int}

theorem onLine_le_of_quotient_le
    (h : round53 (((v - inLow) * (outHigh - outLow) : Int) : Rat) / ((inHigh - inLow : Int) : Rat) ≤
      round53 (((w - inLow) * (outHigh - outLow) : Int) : Rat) / ((inHigh - inLow : Int) : Rat)) :
    onLine inLow inHigh outLow outHigh v ≤ onLine inLow inHigh outLow outHigh w :=
  round53_mono (by simpa using round53_mono h)

theorem onLine_le_of_rising (rising : inLow < inHigh)
    (h : (v - inLow) * (outHigh - outLow) ≤ (w - inLow) * (outHigh - outLow)) :
    onLine inLow inHigh outLow outHigh v ≤ onLine inLow inHigh outLow outHigh w := by
  apply onLine_le_of_quotient_le
  have hwidth : 0 ≤ ((inHigh - inLow : Int) : Rat) := Int.cast_nonneg (by omega)
  exact div_le_div_of_nonneg_right (round53_mono (Int.cast_le.mpr h)) hwidth

theorem onLine_le_of_falling (falling : inHigh < inLow)
    (h : (w - inLow) * (outHigh - outLow) ≤ (v - inLow) * (outHigh - outLow)) :
    onLine inLow inHigh outLow outHigh v ≤ onLine inLow inHigh outLow outHigh w := by
  apply onLine_le_of_quotient_le
  have hwidth : ((inHigh - inLow : Int) : Rat) ≤ 0 := Int.cast_nonpos.mpr (by omega)
  exact div_le_div_of_nonpos_of_le hwidth (round53_mono (Int.cast_le.mpr h))

theorem onLine_upward (order : v ≤ w)
    (upward : inLow < inHigh ∧ outLow ≤ outHigh ∨ inHigh < inLow ∧ outHigh ≤ outLow) :
    onLine inLow inHigh outLow outHigh v ≤ onLine inLow inHigh outLow outHigh w := by
  have horder : v - inLow ≤ w - inLow := Int.sub_le_sub_right order _
  rcases upward with ⟨rising, hout⟩ | ⟨falling, hout⟩
  · exact onLine_le_of_rising rising (mul_le_mul_of_nonneg_right horder (by omega))
  · exact onLine_le_of_falling falling (mul_le_mul_of_nonpos_right horder (by omega))

theorem onLine_downward (order : v ≤ w)
    (downward : inLow < inHigh ∧ outHigh ≤ outLow ∨ inHigh < inLow ∧ outLow ≤ outHigh) :
    onLine inLow inHigh outLow outHigh w ≤ onLine inLow inHigh outLow outHigh v := by
  have horder : v - inLow ≤ w - inLow := Int.sub_le_sub_right order _
  rcases downward with ⟨rising, hout⟩ | ⟨falling, hout⟩
  · exact onLine_le_of_rising rising (mul_le_mul_of_nonpos_right horder (by omega))
  · exact onLine_le_of_falling falling (mul_le_mul_of_nonneg_right horder (by omega))

/-- The bounds of each operation are numbers of 53 digits, so rounding does not leave them. -/
theorem abs_onLine_le (within : |v - inLow| ≤ |inHigh - inLow|) (width : |inHigh - inLow| ≤ 2 ^ 32)
    (height : |outHigh - outLow| ≤ 2 ^ 32) (start : |outLow| ≤ 2 ^ 32) :
    |onLine inLow inHigh outLow outHigh v| ≤ 2 ^ 33 := by
  generalize hW : inHigh - inLow = W at within width
  have hrise :
      |round53 (((v - inLow) * (outHigh - outLow) : Int) : Rat)| ≤ ((|W| : Int) : Rat) * 2 ^ 32 := by
    refine abs_round53_le (Fits53.mul_twoPow ?_ 32) ?_
    · rw [abs_abs]
      exact width.trans (by norm_num)
    · have hproduct : |(v - inLow) * (outHigh - outLow)| ≤ |W| * 2 ^ 32 := by
        rw [abs_mul]
        exact mul_le_mul within height (abs_nonneg _) (abs_nonneg _)
      exact_mod_cast hproduct
  have hquotient :
      |round53 (((v - inLow) * (outHigh - outLow) : Int) : Rat) / (W : Rat)| ≤ 2 ^ 32 := by
    rw [abs_div]
    refine div_le_of_le_mul₀ (abs_nonneg _) (by norm_num) ?_
    rwa [mul_comm ((2 : Rat) ^ 32), ← Int.cast_abs]
  have hpower (k : Nat) : Fits53 (2 ^ k) := by
    simpa using Fits53.mul_twoPow (n := 1) (by norm_num) k
  have hshare := abs_round53_le (hpower 32) hquotient
  rw [onLine, hW]
  refine abs_round53_le (hpower 33) ?_
  have hstart : |(outLow : Rat)| ≤ 2 ^ 32 := by exact_mod_cast start
  linarith [abs_add_le
    (round53 (round53 (((v - inLow) * (outHigh - outLow) : Int) : Rat) / (W : Rat))) outLow]

end

/-- A value is between the ends of a range, whichever of them is the lower one. -/
def Covers (inLow inHigh value : Int32) : Prop :=
  inLow ≤ value ∧ value ≤ inHigh ∨ inHigh ≤ value ∧ value ≤ inLow

instance (inLow inHigh value : Int32) : Decidable (Covers inLow inHigh value) :=
  inferInstanceAs (Decidable (_ ∨ _))

variable {inLow inHigh v w : Int32}

theorem covers_iff : Covers inLow inHigh v ↔
    inLow.toInt ≤ v.toInt ∧ v.toInt ≤ inHigh.toInt ∨
      inHigh.toInt ≤ v.toInt ∧ v.toInt ≤ inLow.toInt := by
  simp only [Covers, Int32.le_iff_toInt_le]

theorem convert_of_covers (ends : inLow ≠ inHigh) (inside : Covers inLow inHigh v)
    (outLow outHigh : Int32) :
    convert inLow inHigh outLow outHigh v =
      .ok (toInteger (onLine inLow.toInt inHigh.toInt outLow.toInt outHigh.toInt v.toInt)) := by
  rw [covers_iff] at inside
  have hinside : ¬(v < (if inHigh < inLow then inHigh else inLow) ∨
      (if inHigh < inLow then inLow else inHigh) < v) := by
    split <;> rename_i hends <;> simp only [Int32.lt_iff_toInt_lt] at hends ⊢ <;> omega
  simp only [convert, if_neg hinside, if_neg ends]

theorem Covers.abs_sub_le (inside : Covers inLow inHigh v) :
    |v.toInt - inLow.toInt| ≤ |inHigh.toInt - inLow.toInt| := by
  rcases covers_iff.mp inside with ⟨low, high⟩ | ⟨low, high⟩
  · rw [abs_of_nonneg (by omega), abs_of_nonneg (by omega)]
    omega
  · rw [abs_of_nonpos (by omega), abs_of_nonpos (by omega)]
    omega

theorem Covers.onLine_le (inside : Covers inLow inHigh v) (outLow outHigh : Int32) :
    onLine inLow.toInt inHigh.toInt outLow.toInt outHigh.toInt v.toInt ≤ 2 ^ 50 := by
  have hin := word_bounds inLow
  have hin' := word_bounds inHigh
  have hout := word_bounds outLow
  have hout' := word_bounds outHigh
  have hbound : |onLine inLow.toInt inHigh.toInt outLow.toInt outHigh.toInt v.toInt| ≤ 2 ^ 33 :=
    abs_onLine_le inside.abs_sub_le (abs_le.mpr (by omega)) (abs_le.mpr (by omega))
      (abs_le.mpr (by omega))
  exact (le_abs_self _).trans (hbound.trans (by norm_num))

/-- Values inside the input range are converted. The results stand in the order of the values if
both ranges run the same way, and in the opposite order if they do not. -/
theorem convert_keeps_order (outLow outHigh : Int32) (ends : inLow ≠ inHigh)
    (hv : Covers inLow inHigh v) (hw : Covers inLow inHigh w) (order : v ≤ w) :
    ∃ r s, convert inLow inHigh outLow outHigh v = .ok r ∧
      convert inLow inHigh outLow outHigh w = .ok s ∧
      (inLow < inHigh ∧ outLow ≤ outHigh ∨ inHigh < inLow ∧ outHigh ≤ outLow → r ≤ s) ∧
      (inLow < inHigh ∧ outHigh ≤ outLow ∨ inHigh < inLow ∧ outLow ≤ outHigh → s ≤ r) := by
  have horder : v.toInt ≤ w.toInt := Int32.le_iff_toInt_le.mp order
  refine ⟨_, _, convert_of_covers ends hv _ _, convert_of_covers ends hw _ _, ?_, ?_⟩
  · intro upward
    simp only [Int32.lt_iff_toInt_lt, Int32.le_iff_toInt_le] at upward
    exact toInteger_mono (onLine_upward horder upward) (hw.onLine_le _ _)
  · intro downward
    simp only [Int32.lt_iff_toInt_lt, Int32.le_iff_toInt_le] at downward
    exact toInteger_mono (onLine_downward horder downward) (hv.onLine_le _ _)

/-- An input range that runs downward over all words, and an output range across zero. -/
theorem convert_keeps_order_downward :
    let first : Int32 := 2147483647
    let last : Int32 := -2147483648
    first ≠ last ∧ Covers first last (-5) ∧ Covers first last 7 ∧
      ∃ r s, convert first last (-2000000000) 2000000000 (-5) = .ok r ∧
        convert first last (-2000000000) 2000000000 7 = .ok s ∧ s ≤ r ∧ s = -6 ∧ r = 4 := by
  intro first last
  have ends : first ≠ last := by decide
  have hv : Covers first last (-5) := by decide
  have hw : Covers first last 7 := by decide
  obtain ⟨r, s, hr, hs, _, downward⟩ :=
    convert_keeps_order (-2000000000) 2000000000 ends hv hw (by decide)
  have hfirst : convert first last (-2000000000) 2000000000 (-5) = .ok 4 := by decide +kernel
  have hsecond : convert first last (-2000000000) 2000000000 7 = .ok (-6) := by decide +kernel
  have hr' : r = 4 := Except.ok.inj (hr.symm.trans hfirst)
  have hs' : s = -6 := Except.ok.inj (hs.symm.trans hsecond)
  exact ⟨ends, hv, hw, r, s, hr, hs, downward (by decide), hs', hr'⟩

end Range

end DacBank
