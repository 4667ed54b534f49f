import DacBank.Proofs.Converter.Line

namespace DacBank

open Numeric

namespace Range

/-- The integer for a point, which may be too large for a word. -/
def rounded (x : Rat) : Int :=
  if roundingThreshold < round53 (x - (truncate x : Rat)) then truncate (round53 (x + 1 / 2))
  else truncate x

theorem toInteger_eq (x : Rat) : toInteger x = saturate (rounded x) := by
  rw [toInteger, rounded]
  split <;> rfl

theorem roundingThreshold_pos : 0 < roundingThreshold := by
  decide +kernel

theorem roundingThreshold_lt_half : roundingThreshold < 1 / 2 := by
  decide +kernel

variable {x : Rat}

/-- The fraction is never above zero, so it is never moved up. -/
theorem rounded_of_nonpos (h : x ≤ 0) : rounded x = ⌈x⌉ := by
  have hfraction : round53 (x - (truncate x : Rat)) ≤ 0 := by
    refine round53_le Fits53.zero ?_
    rw [truncate_of_nonpos h]
    exact sub_nonpos.mpr (Int.le_ceil x)
  rw [rounded, if_neg (not_lt.mpr (hfraction.trans roundingThreshold_pos.le)),
    truncate_of_nonpos h]

section
variable (nonneg : 0 ≤ x)
include nonneg

/-- A point is moved up if its fraction is above the threshold, as a half is. -/
theorem rounded_cases :
    rounded x = ⌊round53 (x + 1 / 2)⌋ ∨ rounded x = ⌊x⌋ ∧ ⌊x⌋ = ⌊x + 1 / 2⌋ := by
  rw [rounded, truncate_of_nonneg nonneg]
  split
  · left
    exact truncate_of_nonneg (le_round53 Fits53.zero (by linarith))
  · rename_i hdown
    right
    have hfraction : x - ⌊x⌋ < 1 / 2 := by
      by_contra hhalf
      rw [not_lt] at hhalf
      exact hdown (roundingThreshold_lt_half.trans_le (le_round53 Fits53.oneHalf hhalf))
    refine ⟨rfl, (Int.floor_eq_iff.mpr ⟨?_, by linarith⟩).symm⟩
    linarith [Int.floor_le x]

theorem round53_add_half_le : round53 (x + 1 / 2) ≤ x + 1 / 2 + (x + 1 / 2) / 2 ^ 53 := by
  have h := abs_round53_sub_le (x + 1 / 2)
  rw [abs_of_nonneg (a := x + 1 / 2) (by linarith)] at h
  linarith [le_abs_self (round53 (x + 1 / 2) - (x + 1 / 2))]

variable (near : x ≤ 2 ^ 52)
include near

theorem floor_le_floor_round53 : ⌊x + 1 / 2⌋ ≤ ⌊round53 (x + 1 / 2)⌋ := by
  have hlow : 0 ≤ ⌊x + 1 / 2⌋ := Int.floor_nonneg.mpr (by linarith)
  have hhigh : ⌊x + 1 / 2⌋ ≤ 2 ^ 53 := by
    have h : (⌊x + 1 / 2⌋ : Rat) ≤ 2 ^ 53 := (Int.floor_le _).trans (by linarith)
    exact_mod_cast h
  exact Int.le_floor.mpr (le_round53 (Fits53.intCast (abs_le.mpr (by omega))) (Int.floor_le _))

theorem floor_le_rounded : ⌊x + 1 / 2⌋ ≤ rounded x := by
  rcases rounded_cases nonneg with h | ⟨h, h'⟩
  · rw [h]
    exact floor_le_floor_round53 nonneg near
  · rw [h, h']

theorem rounded_le_floor : rounded x ≤ ⌊round53 (x + 1 / 2)⌋ := by
  rcases rounded_cases nonneg with h | ⟨h, h'⟩
  · rw [h]
  · rw [h, h']
    exact floor_le_floor_round53 nonneg near

end

variable {n : Int}

theorem le_rounded (near : x ≤ 2 ^ 52) (h : (n : Rat) - 1 / 2 ≤ x) : n ≤ rounded x := by
  rcases le_total 0 x with nonneg | nonpos
  · exact (Int.le_floor.mpr (by linarith)).trans (floor_le_rounded nonneg near)
  · rw [rounded_of_nonpos nonpos]
    have hceil : (n : Rat) < ⌈x⌉ + 1 := by linarith [Int.le_ceil x]
    exact Int.lt_add_one_iff.mp (by exact_mod_cast hceil)

/-- The half that is added must not be rounded up to the next integer. -/
theorem rounded_le (near : x ≤ 2 ^ 52) (hn : 0 ≤ n)
    (h : x + 1 / 2 + (x + 1 / 2) / 2 ^ 53 < n + 1) : rounded x ≤ n := by
  rcases le_total 0 x with nonneg | nonpos
  · refine (rounded_le_floor nonneg near).trans ?_
    rw [← Int.lt_add_one_iff, Int.floor_lt, Int.cast_add, Int.cast_one]
    exact (round53_add_half_le nonneg).trans_lt h
  · rw [rounded_of_nonpos nonpos]
    exact (Int.ceil_le.mpr (by simpa using nonpos)).trans hn

theorem rounded_le_of_nonpos (hn : n ≤ 0) (h : x ≤ n) : rounded x ≤ n := by
  have nonpos : x ≤ 0 := h.trans (by exact_mod_cast hn)
  rw [rounded_of_nonpos nonpos]
  exact Int.ceil_le.mpr h

end Range

/-- The nearest integer to a quotient, halves upward, in integer arithmetic. -/
theorem floor_div_add_half (p : Int) {q : Int} (pos : 0 < q) :
    ⌊(p : Rat) / q + 1 / 2⌋ = (2 * p + q) / (2 * q) := by
  obtain ⟨n, rfl⟩ := Int.eq_ofNat_of_zero_le pos.le
  have hn : (n : Rat) ≠ 0 := by
    rintro h
    rw [Nat.cast_eq_zero.mp h] at pos
    exact lt_irrefl _ pos
  have hquotient : (p : Rat) / ((n : Int) : Rat) + 1 / 2 =
      ((2 * p + n : Int) : Rat) / ((2 * n : Nat) : Rat) := by
    push_cast
    field_simp
  rw [hquotient, Rat.floor_intCast_div_natCast]
  push_cast
  rfl

namespace Conversion

open Range

variable (k : Conversion)

def result : Int :=
  rounded k.computed

/-- What the doubles lose, and more than that. -/
def error : Rat :=
  k.size / 2 ^ 50

theorem computed_bounds : k.point - 3 / 4 * k.error ≤ k.computed ∧
    k.computed ≤ k.point + 3 / 4 * k.error := by
  have h := abs_le.mp k.abs_computed_sub_point_le
  rw [error]
  constructor <;> linarith

theorem error_pos : 0 < k.error :=
  div_pos (zero_lt_one.trans_le k.one_le_size) (by positivity)

theorem error_small : k.error ≤ 1 / 2 ^ 19 := by
  rw [error]
  linarith [k.size_le_word]

theorem computed_le : k.computed ≤ 2 ^ 52 := by
  have h := (abs_le.mp k.abs_point_le).2
  linarith [k.computed_bounds, k.error_small, k.size_le_word]

/-- The half that is added stays within the error as well. -/
theorem computed_add_half_le : k.computed + 1 / 2 + (k.computed + 1 / 2) / 2 ^ 53 <
    k.point + 1 / 2 + k.error := by
  have hpoint := (abs_le.mp k.abs_point_le).2
  have hsize := k.one_le_size
  have hsmall := k.error_small
  have hcomputed := k.computed_bounds.2
  rw [error] at hcomputed hsmall ⊢
  linarith

variable {n : Int}

/-- No integer below the point is missed. -/
theorem le_result (h : (n : Rat) ≤ k.point) : n ≤ k.result := by
  refine le_rounded k.computed_le ?_
  linarith [k.computed_bounds, k.error_small]

theorem result_le (hn : 0 ≤ n) (h : k.point ≤ n) : k.result ≤ n := by
  refine rounded_le k.computed_le hn ?_
  linarith [k.computed_add_half_le, k.error_small]

/-- Below zero a point that lies above an integer by the error is taken to the next one. -/
theorem result_le_succ (hn : n < 0) (h : k.point ≤ n) : k.result ≤ n + 1 := by
  refine rounded_le_of_nonpos hn ?_
  push_cast
  linarith [k.computed_bounds, k.error_small]

/-- An exact product keeps the point below an integer. -/
theorem computed_le_int (fits : |k.product| ≤ 2 ^ 53) (hn : |n| ≤ 2 ^ 32) (h : k.point ≤ n) :
    k.computed ≤ n := by
  have hhalf : (n : Rat) = ((2 * n : Int) : Rat) / 2 := by
    push_cast
    ring
  rw [hhalf] at h ⊢
  rw [abs_le] at hn
  exact k.computed_le_half (abs_le.mpr (by omega)) fits h

theorem result_le_of_fits (fits : |k.product| ≤ 2 ^ 53) (hn : |n| ≤ 2 ^ 32) (h : k.point ≤ n) :
    k.result ≤ n := by
  rcases le_total 0 n with nonneg | nonpos
  · exact k.result_le nonneg h
  · exact rounded_le_of_nonpos nonpos (k.computed_le_int fits hn h)

theorem result_near_of_nonneg (nonneg : 0 ≤ k.point) :
    |(k.result : Rat) - k.point| ≤ 1 / 2 + k.error := by
  have herror := k.error_pos
  have hbounds := k.computed_bounds
  rw [abs_le, result]
  rcases le_total 0 k.computed with h | h
  · have hlow : ((⌊k.computed + 1 / 2⌋ : Int) : Rat) ≤ rounded k.computed :=
      Int.cast_le.mpr (floor_le_rounded h k.computed_le)
    have hhigh : (rounded k.computed : Rat) ≤ ⌊round53 (k.computed + 1 / 2)⌋ :=
      Int.cast_le.mpr (rounded_le_floor h k.computed_le)
    constructor
    · linarith [Int.lt_floor_add_one (k.computed + 1 / 2)]
    · linarith [Int.floor_le (round53 (k.computed + 1 / 2)),
        round53_add_half_le h, k.computed_add_half_le]
  · -- the computed point has passed zero, by the error at most
    have hzero : ⌈k.computed⌉ = 0 := by
      rw [Int.ceil_eq_iff, Int.cast_zero]
      exact ⟨by linarith [k.error_small], h⟩
    rw [rounded_of_nonpos h, hzero, Int.cast_zero]
    constructor <;> linarith

theorem result_near_of_neg (neg : k.point < 0) :
    k.point - k.error ≤ k.result ∧ k.result ≤ 0 ∧ (k.result : Rat) < k.point + 1 + k.error := by
  have herror := k.error_pos
  have hbounds := k.computed_bounds
  have hle : k.result ≤ 0 := k.result_le le_rfl (by exact_mod_cast neg.le)
  refine ⟨?_, hle, ?_⟩
  · rcases le_total 0 k.computed with h | h
    · have hresult : (0 : Rat) ≤ k.result := by
        exact_mod_cast le_rounded (n := 0) k.computed_le (by norm_num; linarith)
      linarith
    · rw [result, rounded_of_nonpos h]
      linarith [Int.le_ceil k.computed]
  · rcases le_total 0 k.computed with h | h
    · have hresult : (k.result : Rat) ≤ 0 := by exact_mod_cast hle
      linarith [k.error_small]
    · rw [result, rounded_of_nonpos h]
      linarith [Int.ceil_lt_add_one k.computed]

/-- Points and half-integers alike are multiples of this. -/
def step : Rat :=
  1 / (2 * k.width)

theorem step_pos : 0 < k.step :=
  one_div_pos.mpr (mul_pos two_pos k.width_pos)

theorem mul_step_apart {a b : Int} (h : a * k.step < b * k.step) :
    a * k.step + k.step ≤ b * k.step := by
  have hnext : (a : Rat) + 1 ≤ b := by
    exact_mod_cast lt_of_mul_lt_mul_right h k.step_pos.le
  linarith [mul_le_mul_of_nonneg_right hnext k.step_pos.le]

theorem point_eq_mul_step :
    k.point = ((2 * (k.product + k.outLow * k.width) : Int) : Rat) * k.step := by
  have hwidth := k.width_pos.ne'
  rw [point, step]
  push_cast
  field_simp

theorem half_eq_mul_step (n : Int) : (n : Rat) / 2 = ((n * k.width : Int) : Rat) * k.step := by
  have hwidth := k.width_pos.ne'
  rw [step]
  push_cast
  field_simp

theorem half_add_step_le (h : (n : Rat) / 2 < k.point) : (n : Rat) / 2 + k.step ≤ k.point := by
  rw [half_eq_mul_step, point_eq_mul_step] at h ⊢
  exact k.mul_step_apart h

theorem point_add_step_le (h : k.point < (n : Rat) / 2) : k.point + k.step ≤ (n : Rat) / 2 := by
  rw [half_eq_mul_step, point_eq_mul_step] at h ⊢
  exact k.mul_step_apart h

section
variable (fine : k.width * k.size ≤ 2 ^ 49)
include fine

theorem error_le_step : k.error ≤ k.step := by
  have hwidth := k.width_pos
  have hfine : (k.width : Rat) * k.size ≤ 2 ^ 49 := by exact_mod_cast fine
  rw [error, step, div_le_div_iff₀ (by positivity) (by linarith)]
  linarith

theorem product_fits : |k.product| ≤ 2 ^ 53 := by
  have hwidth := k.width_pos
  have hfine : (k.width : Rat) * k.size ≤ 2 ^ 49 := by exact_mod_cast fine
  have h := k.abs_quotient_le
  rw [abs_div, abs_of_pos hwidth, div_le_iff₀ hwidth] at h
  have hproduct : |(k.product : Rat)| ≤ 2 ^ 53 := by linarith
  exact_mod_cast hproduct

theorem result_eq_floor (nonneg : 0 ≤ k.point) : k.result = ⌊k.point + 1 / 2⌋ := by
  have hfloor := Int.floor_le (k.point + 1 / 2)
  have hnext := Int.lt_floor_add_one (k.point + 1 / 2)
  have hnonneg : 0 ≤ ⌊k.point + 1 / 2⌋ := Int.floor_nonneg.mpr (by linarith)
  generalize ⌊k.point + 1 / 2⌋ = n at hfloor hnext hnonneg
  have hsize : n ≤ 2 ^ 32 := by
    have h : (n : Rat) ≤ 2 ^ 32 := by
      linarith [(abs_le.mp k.abs_point_le).2, k.size_le_word]
    exact_mod_cast h
  apply le_antisymm
  · have hgap : k.point + k.step ≤ ((2 * n + 1 : Int) : Rat) / 2 := by
      apply k.point_add_step_le
      push_cast
      linarith
    refine rounded_le k.computed_le hnonneg ?_
    push_cast at hgap
    linarith [k.computed_add_half_le, k.error_le_step fine]
  · have hhalf : ((2 * n - 1 : Int) : Rat) / 2 ≤ k.computed := by
      refine k.half_le_computed (abs_le.mpr (by omega)) (k.product_fits fine) ?_
      push_cast
      linarith
    refine le_rounded k.computed_le ?_
    push_cast at hhalf
    linarith

/-- Where the output begins at zero, the result is a quotient of integers. -/
theorem result_from_zero (zero : k.outLow = 0) (nonneg : 0 ≤ k.outHigh) :
    k.result = (2 * k.product + k.width) / (2 * k.width) := by
  have hlow : (k.outLow : Rat) = 0 := Int.cast_eq_zero.mpr zero
  have hpoint : 0 ≤ k.point := k.le_point hlow.ge (Int.cast_nonneg nonneg)
  rw [k.result_eq_floor fine hpoint, point, hlow, add_zero]
  exact floor_div_add_half _ (Int.sub_pos_of_lt k.rising)

theorem result_eq_ceil (nonpos : k.point ≤ 0) : k.result = ⌈k.point⌉ := by
  have hceil := Int.le_ceil k.point
  have hlast := Int.ceil_lt_add_one k.point
  have hnonpos : ⌈k.point⌉ ≤ 0 := Int.ceil_le.mpr (by simpa using nonpos)
  generalize ⌈k.point⌉ = n at hceil hlast hnonpos
  have hsize : -2 ^ 32 ≤ n := by
    have h : (-2 ^ 32 : Rat) ≤ n := by
      linarith [(abs_le.mp k.abs_point_le).1, k.size_le_word]
    exact_mod_cast h
  have hcomputed := k.computed_le_int (k.product_fits fine) (abs_le.mpr (by omega)) hceil
  apply le_antisymm
  · exact rounded_le_of_nonpos hnonpos hcomputed
  · have hgap : ((2 * n - 2 : Int) : Rat) / 2 + k.step ≤ k.point := by
      apply k.half_add_step_le
      push_cast
      linarith
    have hzero : k.computed ≤ 0 := hcomputed.trans (by exact_mod_cast hnonpos)
    rw [result, rounded_of_nonpos hzero, ← Int.sub_one_lt_iff, Int.lt_ceil]
    push_cast at hgap ⊢
    linarith [k.computed_bounds.1, k.error_le_step fine, k.error_pos]

end

end Conversion

end DacBank
