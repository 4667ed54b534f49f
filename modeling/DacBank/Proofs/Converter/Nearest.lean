import DacBank.Proofs.Converter.Accepted

namespace DacBank.Converter

variable {low high steps step : Int32} {c : Converter}

/-- A voltage from 0 mV up comes out as a nearest integer, a half as the upper one; a negative one
as the next integer toward zero. The doubles can blur that by the 2^50th part of the largest
voltage, but not where the last step times that voltage is at most 2^49. -/
theorem toMillivolt_near_voltage (accepted : make low high steps = .ok c)
    (within : 0 ≤ step ∧ step ≤ steps - 1) :
    let voltage : Rat :=
      step.toInt * (high.toInt - low.toInt) / (steps.toInt - 1) + low.toInt
    let size : Int := max |low.toInt| |high.toInt|
    let error : Rat := size / 2 ^ 50
    ∃ r, c.toMillivolt step = .ok r ∧
      (0 ≤ voltage → |(r.toInt : Rat) - voltage| ≤ 1 / 2 + error) ∧
      (voltage < 0 →
        voltage - error ≤ r.toInt ∧ r.toInt ≤ 0 ∧ (r.toInt : Rat) < voltage + 1 + error) ∧
      ((steps.toInt - 1) * size ≤ 2 ^ 49 →
        (0 ≤ voltage → |(r.toInt : Rat) - voltage| ≤ 1 / 2 ∧ r.toInt = ⌊voltage + 1 / 2⌋) ∧
        (voltage < 0 → r.toInt = ⌈voltage⌉)) := by
  obtain ⟨rfl, h⟩ := make_ok_iff.mp accepted
  intro voltage size error
  obtain ⟨r, hr, hresult⟩ := h.toMillivolt_eq within
  have hpoint : (h.voltage within).point = voltage := h.voltage_point within
  have hsize : (h.voltage within).size = size := h.voltage_size within
  have herror : (h.voltage within).error = error := by
    rw [Conversion.error, hsize]
  have hwidth : (h.voltage within).width = steps.toInt - 1 := h.voltage_width within
  refine ⟨r, hr, ?_⟩
  rw [hresult, ← hpoint, ← herror]
  refine ⟨Conversion.result_near_of_nonneg _, Conversion.result_near_of_neg _, fun fine => ?_⟩
  rw [← hsize, ← hwidth] at fine
  refine ⟨fun nonneg => ⟨?_, Conversion.result_eq_floor _ fine nonneg⟩,
    fun neg => Conversion.result_eq_ceil _ fine neg.le⟩
  rw [Conversion.result_eq_floor _ fine nonneg, ← round_eq, abs_sub_comm]
  exact abs_sub_round _

/-- One of the voltages is negative and loses its fraction, the other one is rounded. -/
theorem toMillivolt_near_voltage_across_zero :
    let c : Converter := ⟨-1000, 1000, 4096⟩
    make (-1000) 1000 4096 = .ok c ∧
      (∃ r, c.toMillivolt 3 = .ok r ∧ r.toInt = -998) ∧
      ∃ r, c.toMillivolt 2500 = .ok r ∧ r.toInt = 221 := by
  intro c
  have accepted : make (-1000) 1000 4096 = .ok c := by decide
  have low : (0 : Int32) ≤ 3 ∧ 3 ≤ (4096 : Int32) - 1 := by decide
  have high : (0 : Int32) ≤ 2500 ∧ 2500 ≤ (4096 : Int32) - 1 := by decide
  obtain ⟨r, hr, _, _, hfine⟩ := toMillivolt_near_voltage accepted low
  obtain ⟨r', hr', _, _, hfine'⟩ := toMillivolt_near_voltage accepted high
  have hneg := (hfine (by decide)).2 (by decide +kernel)
  have hnonneg := (hfine' (by decide)).1 (by decide +kernel)
  refine ⟨accepted, ⟨r, hr, hneg.trans ?_⟩, r', hr', hnonneg.2.trans ?_⟩
  · decide +kernel
  · decide +kernel

/-- The first voltage is -20/3 mV. The second is below 1073741822.5 mV by some 2^-31 mV, which is
too little for a double. -/
theorem toMillivolt_misses_nearest :
    let below : Converter := ⟨-10, 0, 4⟩
    let wide : Converter := ⟨0, 2147483647, 2147483647⟩
    make (-10) 0 4 = .ok below ∧ below.toMillivolt 1 = .ok (-6) ∧
      (1 / 2 : Rat) < |-6 - (1 * (0 - -10) / (4 - 1) + -10)| ∧
      make 0 2147483647 2147483647 = .ok wide ∧
      wide.toMillivolt 1073741822 = .ok 1073741823 ∧
      (1 / 2 : Rat) <
        |1073741823 - (1073741822 * (2147483647 - 0) / (2147483647 - 1) + 0)| := by
  intro below wide
  refine ⟨by decide, by decide +kernel, ?_, by decide, by decide +kernel, ?_⟩
  · rw [lt_abs]
    norm_num
  · rw [lt_abs]
    norm_num

end DacBank.Converter
