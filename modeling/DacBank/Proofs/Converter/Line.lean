import DacBank.Converter
import DacBank.Proofs.Numeric.Rounding

namespace DacBank

open Numeric

/-- A value between the ends of a rising input range, and an output range whose ends are at most
`size` in magnitude. -/
structure Conversion where
  inLow : Int
  inHigh : Int
  outLow : Int
  outHigh : Int
  value : Int
  size : Int
  rising : inLow < inHigh
  low : inLow ≤ value
  high : value ≤ inHigh
  outLow_le : |outLow| ≤ size
  outHigh_le : |outHigh| ≤ size
  size_pos : 1 ≤ size
  size_le : size ≤ 2 ^ 31

namespace Conversion

variable (k : Conversion)

/-- The width of the input range. -/
def width : Int :=
  k.inHigh - k.inLow

def product : Int :=
  (k.value - k.inLow) * (k.outHigh - k.outLow)

/-- The point of the line, in exact arithmetic. -/
def point : Rat :=
  k.product / k.width + k.outLow

/-- The point as doubles give it. -/
def computed : Rat :=
  Range.onLine k.inLow k.inHigh k.outLow k.outHigh k.value

theorem computed_eq :
    k.computed = round53 (round53 (round53 k.product / k.width) + k.outLow) :=
  rfl

theorem width_pos : 0 < (k.width : Rat) :=
  Int.cast_pos.mpr (Int.sub_pos_of_lt k.rising)

theorem one_le_size : (1 : Rat) ≤ k.size := by
  exact_mod_cast k.size_pos

theorem size_le_word : (k.size : Rat) ≤ 2 ^ 31 := by
  exact_mod_cast k.size_le

theorem outLow_bounds : -(k.size : Rat) ≤ k.outLow ∧ (k.outLow : Rat) ≤ k.size := by
  exact_mod_cast abs_le.mp k.outLow_le

theorem outHigh_bounds : -(k.size : Rat) ≤ k.outHigh ∧ (k.outHigh : Rat) ≤ k.size := by
  exact_mod_cast abs_le.mp k.outHigh_le

/-- How far the value is on its way through the input range. -/
def way : Rat :=
  (k.value - k.inLow : Int) / k.width

theorem way_nonneg : 0 ≤ k.way :=
  div_nonneg (Int.cast_nonneg (Int.sub_nonneg_of_le k.low)) k.width_pos.le

theorem way_le_one : k.way ≤ 1 := by
  rw [way, div_le_one k.width_pos]
  exact Int.cast_le.mpr (Int.sub_le_sub_right k.high _)

theorem quotient_eq : (k.product : Rat) / k.width = k.way * (k.outHigh - k.outLow) := by
  rw [way, product, Int.cast_mul, Int.cast_sub k.outHigh, div_mul_eq_mul_div]

theorem point_eq : k.point = k.way * (k.outHigh - k.outLow) + k.outLow := by
  rw [point, quotient_eq]

theorem le_point {y : Rat} (low : y ≤ k.outLow) (high : y ≤ k.outHigh) : y ≤ k.point := by
  have h₁ := mul_nonneg k.way_nonneg (sub_nonneg.mpr high)
  have h₂ := mul_nonneg (sub_nonneg.mpr k.way_le_one) (sub_nonneg.mpr low)
  rw [point_eq]
  linarith

theorem point_le {y : Rat} (low : (k.outLow : Rat) ≤ y) (high : (k.outHigh : Rat) ≤ y) :
    k.point ≤ y := by
  have h₁ := mul_nonneg k.way_nonneg (sub_nonneg.mpr high)
  have h₂ := mul_nonneg (sub_nonneg.mpr k.way_le_one) (sub_nonneg.mpr low)
  rw [point_eq]
  linarith

theorem abs_point_le : |k.point| ≤ k.size :=
  abs_le.mpr ⟨k.le_point k.outLow_bounds.1 k.outHigh_bounds.1,
    k.point_le k.outLow_bounds.2 k.outHigh_bounds.2⟩

theorem abs_quotient_le : |(k.product : Rat) / k.width| ≤ 2 * k.size := by
  have h := abs_sub k.point k.outLow
  have hquotient : (k.product : Rat) / k.width = k.point - k.outLow := by
    rw [point, add_sub_cancel_right]
  have hlow : |(k.outLow : Rat)| ≤ k.size := abs_le.mpr k.outLow_bounds
  rw [hquotient]
  linarith [k.abs_point_le]

theorem point_of_first (first : k.value = k.inLow) : k.point = k.outLow := by
  rw [point, product, first, sub_self, zero_mul, Int.cast_zero, zero_div, zero_add]

theorem point_of_last (last : k.value = k.inHigh) : k.point = k.outHigh := by
  have hway : k.way = 1 := by
    rw [way, last]
    exact div_self k.width_pos.ne'
  rw [point_eq, hway, one_mul, sub_add_cancel]

/-- Each of the three roundings adds at most its operand's 2^53th part, and all operands are near
the output range. -/
theorem abs_computed_sub_point_le : |k.computed - k.point| ≤ 6 * k.size / 2 ^ 53 := by
  rw [computed_eq, point]
  generalize hrise : round53 k.product = rise
  generalize hshare : round53 (rise / k.width) = share
  have hproduct :
      |rise / k.width - k.product / k.width| ≤ |(k.product : Rat) / k.width| / 2 ^ 53 := by
    have h := abs_round53_sub_le k.product
    rw [hrise] at h
    rw [← sub_div, abs_div, abs_div, div_right_comm]
    exact div_le_div_of_nonneg_right h (abs_nonneg _)
  have hquotient := abs_round53_sub_le (rise / k.width)
  have hsum := abs_round53_sub_le (share + k.outLow)
  rw [hshare] at hquotient
  have hbound := k.abs_quotient_le
  have hpoint := k.abs_point_le
  have hsize := k.one_le_size
  rw [point] at hpoint
  generalize (k.product : Rat) / k.width = exact at hproduct hbound hpoint ⊢
  generalize rise / k.width = near at hproduct hquotient
  have hnear : |near| ≤ |near - exact| + |exact| := by
    simpa using abs_add_le (near - exact) exact
  have hshareSum : |share + k.outLow| ≤ |share - near| + |near - exact| + |exact + k.outLow| := by
    have h := abs_add_three (share - near) (near - exact) (exact + k.outLow)
    rwa [show share - near + (near - exact) + (exact + k.outLow) = share + k.outLow by ring] at h
  have htotal : |round53 (share + k.outLow) - (exact + k.outLow)| ≤
      |round53 (share + k.outLow) - (share + k.outLow)| + |share - near| + |near - exact| := by
    have h := abs_add_three (round53 (share + k.outLow) - (share + k.outLow)) (share - near)
      (near - exact)
    rwa [show round53 (share + k.outLow) - (share + k.outLow) + (share - near) + (near - exact) =
      round53 (share + k.outLow) - (exact + k.outLow) by ring] at h
  linarith

section
variable {n : Int} (near : |n| ≤ 2 ^ 52)
include near

theorem half_fits : Fits53 ((n : Rat) / 2) :=
  Fits53.half (near.trans (by norm_num))

theorem half_sub_outLow_fits : Fits53 ((n : Rat) / 2 - k.outLow) := by
  have hdifference : (n : Rat) / 2 - k.outLow = ((n - 2 * k.outLow : Int) : Rat) / 2 := by
    push_cast
    ring
  have hlow := abs_le.mp k.outLow_le
  have hn := abs_le.mp near
  have hsize := k.size_le
  rw [hdifference]
  refine Fits53.half (abs_le.mpr ?_)
  omega

variable (fits : |k.product| ≤ 2 ^ 53)
include fits

theorem half_le_computed (h : (n : Rat) / 2 ≤ k.point) : (n : Rat) / 2 ≤ k.computed := by
  rw [computed_eq, (Fits53.intCast fits).round53_eq]
  refine le_round53 (half_fits near) (sub_le_iff_le_add.mp ?_)
  exact le_round53 (k.half_sub_outLow_fits near) (sub_le_iff_le_add.mpr h)

theorem computed_le_half (h : k.point ≤ (n : Rat) / 2) : k.computed ≤ (n : Rat) / 2 := by
  rw [computed_eq, (Fits53.intCast fits).round53_eq]
  refine round53_le (half_fits near) (le_sub_iff_add_le.mp ?_)
  exact round53_le (k.half_sub_outLow_fits near) (le_sub_iff_add_le.mpr h)

end

end Conversion

end DacBank
