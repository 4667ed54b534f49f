import DacBank.Numeric.Rounding
import Mathlib.Algebra.Order.Field.Power
import Mathlib.Data.Rat.Floor
import Mathlib.Tactic.FieldSimp
import Mathlib.Tactic.Linarith

namespace DacBank.Numeric

theorem twoPow_eq (k : Int) : twoPow k = (2 : Rat) ^ k := by
  cases k with
  | ofNat k =>
    rw [twoPow, Int.ofNat_eq_natCast, zpow_natCast]
    exact Nat.cast_pow 2 k
  | negSucc k =>
    rw [twoPow, Rat.mkRat_eq_div, zpow_negSucc, Int.cast_one, one_div]
    exact congrArg _ (Nat.cast_pow 2 (k + 1))

theorem twoPow_pos (k : Int) : 0 < twoPow k := by
  rw [twoPow_eq]
  exact zpow_pos two_pos k

theorem twoPow_add (j k : Int) : twoPow (j + k) = twoPow j * twoPow k := by
  simp only [twoPow_eq, zpow_add₀ (two_ne_zero (α := Rat))]

theorem twoPow_mono {j k : Int} (h : j ≤ k) : twoPow j ≤ twoPow k := by
  rw [twoPow_eq, twoPow_eq]
  exact zpow_le_zpow_right₀ one_le_two h

theorem twoPow_natCast (k : Nat) : twoPow k = ((2 ^ k : Int) : Rat) := by
  rw [twoPow_eq, zpow_natCast, Int.cast_pow, Int.cast_ofNat]

theorem rat_abs_eq (x : Rat) : x.abs = |x| := by
  unfold Rat.abs
  split
  · rename_i h
    exact (abs_of_nonneg h).symm
  · rename_i h
    exact (abs_of_neg (not_le.mp h)).symm

/-- The quotient of two numbers of `j + 1` and `k + 1` binary digits. -/
theorem twoPow_log2_bounds {x : Rat} (hx : x ≠ 0) :
    let k : Int := x.num.natAbs.log2 - x.den.log2
    twoPow (k - 1) < |x| ∧ |x| < twoPow (k + 1) := by
  intro k
  have hnum : x.num.natAbs ≠ 0 := Int.natAbs_ne_zero.mpr (Rat.num_ne_zero.mpr hx)
  have low : (2 : Rat) ^ x.num.natAbs.log2 ≤ x.num.natAbs := by
    exact_mod_cast Nat.log2_self_le hnum
  have high : (x.num.natAbs : Rat) < 2 ^ (x.num.natAbs.log2 + 1) := by
    exact_mod_cast Nat.lt_log2_self
  have lowDen : (2 : Rat) ^ x.den.log2 ≤ x.den := by exact_mod_cast Nat.log2_self_le x.den_nz
  have highDen : (x.den : Rat) < 2 ^ (x.den.log2 + 1) := by exact_mod_cast Nat.lt_log2_self
  have hden : (0 : Rat) < x.den := by exact_mod_cast x.pos
  have habs : |x| = x.num.natAbs / x.den := by
    conv_lhs => rw [← Rat.num_div_den x]
    rw [abs_div, abs_of_pos hden, Nat.cast_natAbs, Int.cast_abs]
  have quotient (m n : Nat) : twoPow (m - n) = (2 : Rat) ^ m / 2 ^ n := by
    rw [twoPow_eq, zpow_sub₀ two_ne_zero, zpow_natCast, zpow_natCast]
  have hlow : k - 1 = (x.num.natAbs.log2 : Nat) - ((x.den.log2 + 1 : Nat) : Int) := by
    push_cast
    ring
  have hhigh : k + 1 = ((x.num.natAbs.log2 + 1 : Nat) : Int) - (x.den.log2 : Nat) := by
    push_cast
    ring
  rw [habs, hlow, hhigh, quotient, quotient]
  constructor
  · exact div_lt_div₀' low highDen (by positivity) hden
  · exact div_lt_div₀ high lowDen (by positivity) (by positivity)

theorem twoPow_binade {x : Rat} (hx : x ≠ 0) :
    twoPow (binade x) ≤ |x| ∧ |x| < twoPow (binade x + 1) := by
  obtain ⟨low, high⟩ := twoPow_log2_bounds hx
  simp only [binade, rat_abs_eq]
  split
  · rename_i h
    exact ⟨h, high⟩
  · rename_i h
    rw [sub_add_cancel]
    exact ⟨le_of_lt low, not_le.mp h⟩

/-- No integer is nearer, above or below. -/
theorem roundHalfEven_nearest (x : Rat) (n : Int) :
    |(roundHalfEven x : Rat) - x| ≤ |(n : Rat) - x| := by
  have hlow : (⌊x⌋ : Rat) ≤ x := Int.floor_le x
  have hhigh : x < ⌊x⌋ + 1 := Int.lt_floor_add_one x
  have near : |(roundHalfEven x : Rat) - x| ≤ x - ⌊x⌋ ∧
      |(roundHalfEven x : Rat) - x| ≤ ⌊x⌋ + 1 - x := by
    have hfloor : x.floor = ⌊x⌋ := rfl
    have hdown : |(⌊x⌋ : Rat) - x| = x - ⌊x⌋ := by
      rw [abs_sub_comm, abs_of_nonneg (sub_nonneg.mpr hlow)]
    have hup : |((⌊x⌋ + 1 : Int) : Rat) - x| = ⌊x⌋ + 1 - x := by
      rw [Int.cast_add, Int.cast_one, abs_of_pos (sub_pos.mpr hhigh)]
    simp only [roundHalfEven, hfloor]
    split_ifs
    · rw [hdown]
      constructor <;> linarith
    · rw [hup]
      constructor <;> linarith
    · rw [hdown]
      constructor <;> linarith
    · rw [hup]
      constructor <;> linarith
  rcases le_or_gt n ⌊x⌋ with h | h
  · have hn : (n : Rat) ≤ ⌊x⌋ := Int.cast_le.mpr h
    linarith [near.1, neg_le_abs ((n : Rat) - x)]
  · have hn : (⌊x⌋ : Rat) + 1 ≤ n := by exact_mod_cast h
    linarith [near.2, le_abs_self ((n : Rat) - x)]

theorem abs_roundHalfEven_sub_le (x : Rat) : |(roundHalfEven x : Rat) - x| ≤ 1 / 2 := by
  have hround : |(round x : Rat) - x| ≤ 1 / 2 := by
    rw [abs_sub_comm]
    exact abs_sub_round x
  exact (roundHalfEven_nearest x (round x)).trans hround

section
variable {unit : Rat} (pos : 0 < unit) (x : Rat)
include pos

theorem abs_mul_unit_sub (n : Int) : |n * unit - x| = |n - x / unit| * unit := by
  rw [← abs_of_pos pos, ← abs_mul, abs_of_pos pos, sub_mul, div_mul_cancel₀ _ pos.ne']

theorem roundTo_nearest (n : Int) : |roundTo unit x - x| ≤ |n * unit - x| := by
  rw [roundTo, abs_mul_unit_sub pos, abs_mul_unit_sub pos]
  exact mul_le_mul_of_nonneg_right (roundHalfEven_nearest _ n) pos.le

theorem abs_roundTo_sub_le : |roundTo unit x - x| ≤ unit / 2 := by
  rw [roundTo, abs_mul_unit_sub pos]
  linarith [mul_le_mul_of_nonneg_right (abs_roundHalfEven_sub_le (x / unit)) pos.le]

end

/-- A number of at most 53 binary digits, wherever the first one stands. -/
def Fits53 (x : Rat) : Prop :=
  ∃ m e : Int, |m| ≤ 2 ^ 53 ∧ x = m * twoPow e

theorem Fits53.intCast {n : Int} (h : |n| ≤ 2 ^ 53) : Fits53 n :=
  ⟨n, 0, h, (mul_one _).symm⟩

theorem Fits53.half {n : Int} (h : |n| ≤ 2 ^ 53) : Fits53 (n / 2) :=
  ⟨n, -1, h, by rw [twoPow_eq, zpow_neg_one, div_eq_mul_inv]⟩

theorem Fits53.zero : Fits53 0 :=
  ⟨0, 0, by norm_num, by rw [Int.cast_zero, zero_mul]⟩

theorem Fits53.oneHalf : Fits53 (1 / 2) :=
  ⟨1, -1, by norm_num, by rw [twoPow_eq, zpow_neg_one, Int.cast_one, one_mul, one_div]⟩

/-- Far from zero, the numbers of 53 digits are multiples of one unit. -/
theorem Fits53.multiple {y : Rat} (hy : Fits53 y) {b : Int} (far : twoPow b < |y|) :
    ∃ n : Int, y = n * twoPow (b - 52) := by
  obtain ⟨m, e, hm, rfl⟩ := hy
  by_cases he : b - 52 ≤ e
  · obtain ⟨k, hk⟩ := Int.eq_ofNat_of_zero_le (sub_nonneg.mpr he)
    refine ⟨m * 2 ^ k, ?_⟩
    have hsplit : e = (k : Int) + (b - 52) := by omega
    rw [hsplit, twoPow_add, twoPow_natCast, Int.cast_mul, mul_assoc]
  · exfalso
    have hm' : |(m : Rat)| ≤ twoPow 53 := by
      rw [← Int.cast_abs]
      exact Int.cast_le.mpr hm
    have hsmall : |(m : Rat) * twoPow e| ≤ twoPow b := by
      rw [abs_mul, abs_of_pos (twoPow_pos e)]
      calc |(m : Rat)| * twoPow e
          ≤ twoPow 53 * twoPow e := mul_le_mul_of_nonneg_right hm' (twoPow_pos e).le
        _ = twoPow (53 + e) := (twoPow_add 53 e).symm
        _ ≤ twoPow b := twoPow_mono (by omega)
    exact absurd far (not_lt.mpr hsmall)

/-- The end of the binade on the side of `x` is a multiple of the unit. -/
theorem binade_end_multiple (x : Rat) (b : Int) :
    ∃ n : Int, (n : Rat) * twoPow (b - 52) = if 0 ≤ x then twoPow b else -twoPow b := by
  have hb : twoPow b = ((2 ^ 52 : Int) : Rat) * twoPow (b - 52) := by
    have h := twoPow_add 52 (b - 52)
    have h52 : twoPow 52 = ((2 ^ 52 : Int) : Rat) := twoPow_natCast 52
    rwa [add_sub_cancel, h52] at h
  split
  · exact ⟨2 ^ 52, hb.symm⟩
  · exact ⟨-2 ^ 52, by rw [Int.cast_neg, neg_mul, ← hb]⟩

theorem round53_nearest (x : Rat) {y : Rat} (hy : Fits53 y) : |round53 x - x| ≤ |y - x| := by
  unfold round53
  split
  · rename_i h
    rw [h, sub_zero, abs_zero]
    exact abs_nonneg _
  rename_i hx
  obtain ⟨low, _⟩ := twoPow_binade hx
  have hunit := twoPow_pos (binade x - 52)
  by_cases far : twoPow (binade x) < |y|
  · obtain ⟨n, rfl⟩ := hy.multiple far
    exact roundTo_nearest hunit x n
  · -- the end of the binade lies between `y` and `x`
    obtain ⟨n, hn⟩ := binade_end_multiple x (binade x)
    refine (roundTo_nearest hunit x n).trans ?_
    rw [hn]
    obtain ⟨hy₁, hy₂⟩ := abs_le.mp (not_lt.mp far)
    split
    · rename_i h
      rw [abs_of_nonneg h] at low
      rw [abs_sub_comm, abs_of_nonneg (by linarith), abs_sub_comm, abs_of_nonneg (by linarith)]
      linarith
    · rename_i h
      rw [abs_of_neg (not_le.mp h)] at low
      rw [abs_of_nonneg (by linarith), abs_of_nonneg (by linarith)]
      linarith

theorem round53_fits (x : Rat) : Fits53 (round53 x) := by
  unfold round53
  split
  · exact Fits53.zero
  rename_i hx
  obtain ⟨_, high⟩ := twoPow_binade hx
  have hunit := twoPow_pos (binade x - 52)
  refine ⟨roundHalfEven (x / twoPow (binade x - 52)), binade x - 52, ?_, rfl⟩
  have hquotient : |x / twoPow (binade x - 52)| < 2 ^ 53 := by
    rw [abs_div, abs_of_pos hunit, div_lt_iff₀ hunit]
    have h := twoPow_add 53 (binade x - 52)
    have hsum : 53 + (binade x - 52) = binade x + 1 := by ring
    have h53 : twoPow 53 = 2 ^ 53 := twoPow_eq 53
    rw [hsum, h53] at h
    rwa [← h]
  have hround := abs_le.mp (abs_roundHalfEven_sub_le (x / twoPow (binade x - 52)))
  have hbound := abs_lt.mp hquotient
  have hlow : (-2 ^ 53 - 1 : Rat) < roundHalfEven (x / twoPow (binade x - 52)) := by linarith
  have hhigh : (roundHalfEven (x / twoPow (binade x - 52)) : Rat) < 2 ^ 53 + 1 := by linarith
  have hlow' : (-2 ^ 53 - 1 : Int) < roundHalfEven (x / twoPow (binade x - 52)) := by
    exact_mod_cast hlow
  have hhigh' : roundHalfEven (x / twoPow (binade x - 52)) < 2 ^ 53 + 1 := by
    exact_mod_cast hhigh
  rw [abs_le]
  omega

theorem Fits53.round53_eq {x : Rat} (hx : Fits53 x) : round53 x = x := by
  have h := round53_nearest x hx
  rw [sub_self, abs_zero, abs_nonpos_iff] at h
  exact sub_eq_zero.mp h

/-- If the results changed places, each would be nearer to the other number. -/
theorem round53_mono {x y : Rat} (h : x ≤ y) : round53 x ≤ round53 y := by
  by_contra hlt
  rw [not_le] at hlt
  have hx := round53_nearest x (round53_fits y)
  have hy := round53_nearest y (round53_fits x)
  rcases eq_or_lt_of_le h with rfl | hxy
  · exact lt_irrefl _ hlt
  · have hx₁ := le_abs_self (round53 x - x)
    have hy₁ := neg_abs_le (round53 y - y)
    rcases abs_cases (round53 y - x) with ⟨e, _⟩ | ⟨e, _⟩ <;>
      rcases abs_cases (round53 x - y) with ⟨e', _⟩ | ⟨e', _⟩ <;> linarith

theorem le_round53 {x y : Rat} (hy : Fits53 y) (h : y ≤ x) : y ≤ round53 x :=
  hy.round53_eq ▸ round53_mono h

theorem round53_le {x y : Rat} (hy : Fits53 y) (h : x ≤ y) : round53 x ≤ y :=
  hy.round53_eq ▸ round53_mono h

theorem abs_round53_sub_le (x : Rat) : |round53 x - x| ≤ |x| / 2 ^ 53 := by
  unfold round53
  split
  · rename_i h
    simp [h]
  rename_i hx
  obtain ⟨low, _⟩ := twoPow_binade hx
  refine (abs_roundTo_sub_le (twoPow_pos _) x).trans ?_
  have hunit : twoPow (binade x - 52) / 2 = twoPow (binade x) / 2 ^ 53 := by
    rw [twoPow_eq, twoPow_eq, zpow_sub₀ two_ne_zero]
    field_simp
  rw [hunit]
  exact div_le_div_of_nonneg_right low (by positivity)

theorem truncate_of_nonneg {x : Rat} (h : 0 ≤ x) : truncate x = ⌊x⌋ := by
  rw [truncate, Rat.floor_def', Int.tdiv_eq_ediv_of_nonneg (Rat.num_nonneg.mpr h)]

theorem truncate_of_nonpos {x : Rat} (h : x ≤ 0) : truncate x = ⌈x⌉ := by
  have hneg : truncate (-x) = -truncate x := by
    rw [truncate, truncate, Rat.neg_num, Rat.neg_den, Int.neg_tdiv]
  rw [← neg_neg ⌈x⌉, ← Int.floor_neg, ← truncate_of_nonneg (neg_nonneg.mpr h), hneg, neg_neg]

theorem saturate_toInt {n : Int} (low : -2 ^ 31 ≤ n) (high : n < 2 ^ 31) :
    (saturate n).toInt = n := by
  have hmin : ¬n < Int32.minValue.toInt := not_lt.mpr low
  have hmax : ¬Int32.maxValue.toInt < n := not_lt.mpr (Int.le_sub_one_of_lt high)
  rw [saturate, if_neg hmin, if_neg hmax]
  exact Int32.toInt_ofInt_of_le low high

end DacBank.Numeric
