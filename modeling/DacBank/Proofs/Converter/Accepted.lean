import DacBank.Proofs.Converter.Rounded

namespace DacBank

open Numeric

theorem word_bounds (w : Int32) : -2 ^ 31 ≤ w.toInt ∧ w.toInt ≤ 2 ^ 31 - 1 :=
  ⟨w.le_toInt, Int.le_sub_one_of_lt w.toInt_lt⟩

theorem Range.convert_of_rising {inLow inHigh : Int32} (rising : inLow < inHigh)
    (outLow outHigh value : Int32) :
    convert inLow inHigh outLow outHigh value =
      if inLow ≤ value ∧ value ≤ inHigh then
        .ok (toInteger (onLine inLow.toInt inHigh.toInt outLow.toInt outHigh.toInt value.toInt))
      else .error (.valueOutOfRange value inLow inHigh) := by
  rw [Int32.lt_iff_toInt_lt] at rising
  have hdown : ¬inHigh < inLow := by
    rw [Int32.lt_iff_toInt_lt]
    omega
  have hne : ¬inLow = inHigh := by
    rw [← Int32.toInt_inj]
    omega
  have hwithin : (value < inLow ∨ inHigh < value) ↔ ¬(inLow ≤ value ∧ value ≤ inHigh) := by
    rw [Int32.lt_iff_toInt_lt, Int32.lt_iff_toInt_lt, Int32.le_iff_toInt_le, Int32.le_iff_toInt_le]
    omega
  simp only [convert, if_neg hdown, if_neg hne, hwithin, ite_not]

namespace Conversion

/-- The conversion that words describe. -/
def ofWords (inLow inHigh outLow outHigh value : Int32) (rising : inLow < inHigh)
    (within : inLow ≤ value ∧ value ≤ inHigh) : Conversion where
  inLow := inLow.toInt
  inHigh := inHigh.toInt
  outLow := outLow.toInt
  outHigh := outHigh.toInt
  value := value.toInt
  size := max 1 (max |outLow.toInt| |outHigh.toInt|)
  rising := Int32.lt_iff_toInt_lt.mp rising
  low := Int32.le_iff_toInt_le.mp within.1
  high := Int32.le_iff_toInt_le.mp within.2
  outLow_le := (le_max_left _ _).trans (le_max_right _ _)
  outHigh_le := (le_max_right _ _).trans (le_max_right _ _)
  size_pos := le_max_left _ _
  size_le := by
    have hlow := word_bounds outLow
    have hhigh := word_bounds outHigh
    refine max_le (by norm_num) (max_le ?_ ?_) <;> rw [abs_le] <;> omega

variable {inLow inHigh outLow outHigh value : Int32} (rising : inLow < inHigh)
  (within : inLow ≤ value ∧ value ≤ inHigh)

theorem ofWords_result_bounds (outLow outHigh : Int32) :
    let k := ofWords inLow inHigh outLow outHigh value rising within
    k.result ≤ 2 ^ 31 - 1 ∧ -2 ^ 31 ≤ k.result := by
  have hlow := word_bounds outLow
  have hhigh := word_bounds outHigh
  constructor
  · exact result_le _ (by norm_num) (point_le _ (Int.cast_le.mpr hlow.2) (Int.cast_le.mpr hhigh.2))
  · exact le_result _ (le_point _ (Int.cast_le.mpr hlow.1) (Int.cast_le.mpr hhigh.1))

/-- Nothing is lost when the result is fitted into a word. -/
theorem convert_ofWords : ∃ r, Range.convert inLow inHigh outLow outHigh value = .ok r ∧
    r.toInt = (ofWords inLow inHigh outLow outHigh value rising within).result := by
  obtain ⟨high, low⟩ := ofWords_result_bounds rising within outLow outHigh
  refine ⟨_, (Range.convert_of_rising rising _ _ _).trans (if_pos within), ?_⟩
  rw [Range.toInteger_eq]
  exact saturate_toInt low (Int.lt_of_le_sub_one high)

end Conversion

namespace Converter

/-- Two steps at least, and voltages that rise. -/
structure Accepted (c : Converter) : Prop where
  steps : 2 ≤ c.steps
  rising : c.lowMillivolt < c.highMillivolt

theorem make_ok_iff {low high steps : Int32} {c : Converter} :
    make low high steps = .ok c ↔ c = ⟨low, high, steps⟩ ∧ c.Accepted := by
  rw [make]
  split
  · rename_i few
    refine ⟨nofun, ?_⟩
    rintro ⟨rfl, enough, _⟩
    exact absurd few (Int32.not_lt.mpr enough)
  split
  · rename_i inverted
    refine ⟨nofun, ?_⟩
    rintro ⟨rfl, _, rising⟩
    exact absurd inverted (Int32.not_le.mpr rising)
  · rename_i enough rising
    refine ⟨?_, fun h => congrArg Except.ok h.1.symm⟩
    rintro ⟨rfl⟩
    exact ⟨rfl, Int32.not_lt.mp enough, Int32.not_le.mp rising⟩

namespace Accepted

variable {c : Converter} (h : c.Accepted)
include h

theorem maxStep_toInt : c.maxStep.toInt = c.steps.toInt - 1 := by
  have hsteps := Int32.le_iff_toInt_le.mp h.steps
  have hword := word_bounds c.steps
  have htwo : (2 : Int32).toInt = 2 := rfl
  have hone : (1 : Int32).toInt = 1 := rfl
  rw [maxStep, Int32.toInt_sub, hone]
  exact Int.bmod_eq_of_le (by omega) (by omega)

theorem one_le_maxStep : 1 ≤ c.maxStep.toInt := by
  have hsteps := Int32.le_iff_toInt_le.mp h.steps
  have htwo : (2 : Int32).toInt = 2 := rfl
  rw [h.maxStep_toInt]
  omega

theorem maxStep_pos : 0 < c.maxStep :=
  Int32.lt_iff_toInt_lt.mpr h.one_le_maxStep

/-- Steps to millivolts. -/
def voltage {step : Int32} (within : 0 ≤ step ∧ step ≤ c.maxStep) : Conversion :=
  .ofWords 0 c.maxStep c.lowMillivolt c.highMillivolt step h.maxStep_pos within

/-- Millivolts to steps. -/
def position {millivolt : Int32}
    (within : c.lowMillivolt ≤ millivolt ∧ millivolt ≤ c.highMillivolt) : Conversion :=
  .ofWords c.lowMillivolt c.highMillivolt 0 c.maxStep millivolt h.rising within

section
variable {step : Int32} (within : 0 ≤ step ∧ step ≤ c.maxStep)

theorem toMillivolt_eq : ∃ r, c.toMillivolt step = .ok r ∧ r.toInt = (h.voltage within).result :=
  Conversion.convert_ofWords h.maxStep_pos within

theorem voltage_width : (h.voltage within).width = c.steps.toInt - 1 := by
  change c.maxStep.toInt - (0 : Int32).toInt = _
  rw [Int32.toInt_zero, sub_zero, h.maxStep_toInt]

theorem voltage_point : (h.voltage within).point =
    step.toInt * (c.highMillivolt.toInt - c.lowMillivolt.toInt) / (c.steps.toInt - 1) +
      c.lowMillivolt.toInt := by
  simp [Conversion.point, Conversion.product, Conversion.width, voltage, Conversion.ofWords,
    h.maxStep_toInt]

theorem voltage_size : (h.voltage within).size =
    max |c.lowMillivolt.toInt| |c.highMillivolt.toInt| := by
  have hrising := Int32.lt_iff_toInt_lt.mp h.rising
  refine max_eq_right (le_max_iff.mpr ?_)
  by_contra hzero
  rw [not_or, not_le, not_le, Int.abs_lt_one_iff, Int.abs_lt_one_iff] at hzero
  omega

end

section
variable {millivolt : Int32}
  (within : c.lowMillivolt ≤ millivolt ∧ millivolt ≤ c.highMillivolt)

theorem toStep_eq : ∃ r, c.toStep millivolt = .ok r ∧ r.toInt = (h.position within).result :=
  Conversion.convert_ofWords h.rising within

theorem position_size : (h.position within).size = c.steps.toInt - 1 := by
  have hone := h.one_le_maxStep
  change max 1 (max |(0 : Int32).toInt| |c.maxStep.toInt|) = _
  rw [h.maxStep_toInt] at hone ⊢
  rw [Int32.toInt_zero, abs_zero, abs_of_nonneg (by omega)]
  omega

end

theorem toMillivolt_ok_iff {step : Int32} :
    (∃ r, c.toMillivolt step = .ok r) ↔ 0 ≤ step ∧ step ≤ c.maxStep := by
  constructor
  · rintro ⟨r, hr⟩
    by_contra outside
    rw [toMillivolt, Range.convert_of_rising h.maxStep_pos, if_neg outside] at hr
    cases hr
  · intro within
    obtain ⟨r, hr, _⟩ := h.toMillivolt_eq within
    exact ⟨r, hr⟩

theorem toStep_ok_iff {millivolt : Int32} :
    (∃ r, c.toStep millivolt = .ok r) ↔
      c.lowMillivolt ≤ millivolt ∧ millivolt ≤ c.highMillivolt := by
  constructor
  · rintro ⟨r, hr⟩
    by_contra outside
    rw [toStep, Range.convert_of_rising h.rising, if_neg outside] at hr
    cases hr
  · intro within
    obtain ⟨r, hr, _⟩ := h.toStep_eq within
    exact ⟨r, hr⟩

end Accepted

end Converter

end DacBank
