import DacBank.Proofs.Converter.Ends

namespace DacBank

namespace Converter

variable {high : Int32} {c : Converter}

theorem ltc2620_ok_iff : ltc2620 high = .ok c ↔ c = ⟨0, high, 4096⟩ ∧ 1 ≤ high := by
  rw [ltc2620, make_ok_iff]
  refine and_congr_right ?_
  rintro rfl
  have hone : 1 ≤ high ↔ 0 < high := by
    rw [Int32.le_iff_toInt_le, Int32.lt_iff_toInt_lt]
    exact Int.add_one_le_iff (a := 0)
  rw [hone]
  exact ⟨Accepted.rising, fun pos => ⟨(by decide : (2 : Int32) ≤ 4096), pos⟩⟩

section
variable (made : ltc2620 high = .ok c)
include made

theorem ltc2620_maxStep : c.maxStep = 4095 := by
  obtain ⟨rfl, _⟩ := ltc2620_ok_iff.mp made
  exact (by decide : (4096 - 1 : Int32) = 4095)

theorem ltc2620_toMillivolt {step : Int32} (within : 0 ≤ step ∧ step ≤ 4095) :
    ∃ r, c.toMillivolt step = .ok r ∧
      r.toInt = (2 * (step.toInt * high.toInt) + 4095) / 8190 := by
  rw [← ltc2620_maxStep made] at within
  obtain ⟨rfl, h⟩ := make_ok_iff.mp made
  obtain ⟨r, hr, hresult⟩ := h.toMillivolt_eq within
  have hpos : 0 < high.toInt := Int32.lt_iff_toInt_lt.mp h.rising
  have hword := word_bounds high
  have hwidth : (h.voltage within).width = 4095 := h.voltage_width within
  have hproduct : (h.voltage within).product = step.toInt * high.toInt := by
    simp [Conversion.product, Accepted.voltage, Conversion.ofWords]
  have hfine : (h.voltage within).width * (h.voltage within).size ≤ 2 ^ 49 := by
    rw [hwidth, h.voltage_size, Int32.toInt_zero, abs_zero, abs_of_pos hpos]
    omega
  rw [Conversion.result_from_zero _ hfine rfl hpos.le, hproduct, hwidth] at hresult
  exact ⟨r, hr, hresult⟩

theorem ltc2620_toStep {millivolt : Int32} (within : 0 ≤ millivolt ∧ millivolt ≤ high) :
    ∃ r, c.toStep millivolt = .ok r ∧
      r.toInt = (2 * (millivolt.toInt * 4095) + high.toInt) / (2 * high.toInt) := by
  obtain ⟨rfl, h⟩ := make_ok_iff.mp made
  obtain ⟨r, hr, hresult⟩ := h.toStep_eq within
  have hword := word_bounds high
  have hwidth : (h.position within).width = high.toInt := Int.sub_zero _
  have hproduct : (h.position within).product = millivolt.toInt * 4095 := by
    simp [Conversion.product, Accepted.position, Conversion.ofWords, h.maxStep_toInt]
  have hsize : (h.position within).size = 4095 := h.position_size within
  have hfine : (h.position within).width * (h.position within).size ≤ 2 ^ 49 := by
    rw [hwidth, hsize]
    omega
  have hnonneg : 0 ≤ (h.position within).outHigh := zero_le_one.trans h.one_le_maxStep
  rw [Conversion.result_from_zero _ hfine rfl hnonneg, hproduct, hwidth] at hresult
  exact ⟨r, hr, hresult⟩

end

/-- Both conversions of the chip give the exact quotient, rounded with halves upward. -/
theorem ltc2620_rounds_half_up (high : Int32) :
    ((∃ c, ltc2620 high = .ok c) ↔ 1 ≤ high) ∧ ltc2620 2048 = .ok mythen3 ∧
      ∀ c, ltc2620 high = .ok c →
        (∀ step, 0 ≤ step ∧ step ≤ 4095 → ∃ r, c.toMillivolt step = .ok r ∧
          r.toInt = (2 * (step.toInt * high.toInt) + 4095) / 8190) ∧
        ∀ millivolt, 0 ≤ millivolt ∧ millivolt ≤ high → ∃ r, c.toStep millivolt = .ok r ∧
          r.toInt = (2 * (millivolt.toInt * 4095) + high.toInt) / (2 * high.toInt) := by
  refine ⟨⟨fun ⟨_, made⟩ => (ltc2620_ok_iff.mp made).2, fun pos => ?_⟩, by decide,
    fun c made => ⟨fun _ => ltc2620_toMillivolt made, fun _ => ltc2620_toStep made⟩⟩
  exact ⟨⟨0, high, 4096⟩, ltc2620_ok_iff.mpr ⟨rfl, pos⟩⟩

/-- Half of Mythen3's range lies between two steps, and the upper one is taken. -/
theorem ltc2620_rounds_half_up_mythen3 :
    ltc2620 2048 = .ok mythen3 ∧ (∃ r, mythen3.toMillivolt 1000 = .ok r ∧ r.toInt = 500) ∧
      ∃ r, mythen3.toStep 1024 = .ok r ∧ r.toInt = 2048 := by
  obtain ⟨_, made, hround⟩ := ltc2620_rounds_half_up 2048
  obtain ⟨hvoltage, hstep⟩ := hround mythen3 made
  exact ⟨made, hvoltage 1000 (by decide), hstep 1024 (by decide)⟩

section
variable {top v d w : Int} (pos : 0 < top)
include pos

/-- Rounding to a step moves the voltage by half a step's voltage at most, and rounding back by less
than half a millivolt. -/
theorem voltage_there_and_back (step : d = (2 * (v * 4095) + top) / (2 * top))
    (back : w = (2 * (d * top) + 4095) / 8190) :
    |w - v| * 4095 ≤ top ∧ (top ≤ 4095 → w = v) := by
  have htwo : 0 < 2 * top := by omega
  obtain ⟨hd, hd'⟩ := (Int.ediv_eq_iff_of_pos htwo).mp step.symm
  obtain ⟨hw, hw'⟩ := (Int.ediv_eq_iff_of_pos (by norm_num)).mp back.symm
  have hexact : top ≤ 4095 → w = v := by
    intro coarse
    rcases Int.lt_or_eq_of_le coarse with below | rfl
    · rw [mul_left_comm d] at hd hd'
      omega
    · omega
  refine ⟨?_, hexact⟩
  rcases le_or_gt top 4095 with coarse | fine
  · rw [hexact coarse, sub_self, abs_zero, zero_mul]
    exact pos.le
  · rw [mul_left_comm d] at hd hd'
    rcases abs_cases (w - v) with ⟨habs, _⟩ | ⟨habs, _⟩
    · rw [habs]
      omega
    · rw [habs]
      omega

theorem step_there_and_back (fine : 4095 ≤ top) (voltage : w = (2 * (d * top) + 4095) / 8190) :
    d = (2 * (w * 4095) + top) / (2 * top) := by
  obtain ⟨hw, hw'⟩ := (Int.ediv_eq_iff_of_pos (by norm_num)).mp voltage.symm
  have htwo : 0 < 2 * top := by omega
  refine ((Int.ediv_eq_iff_of_pos htwo).mpr ?_).symm
  rcases Int.lt_or_eq_of_le fine with above | rfl
  · rw [mul_left_comm d]
    omega
  · omega

end

/-- From millivolts to steps and back, a voltage moves by one step's voltage at most. The coarser
scale is met exactly: the millivolts up to 4095 mV, the steps from there on. -/
theorem ltc2620_round_trip (made : ltc2620 high = .ok c) :
    (∀ v, 0 ≤ v ∧ v ≤ high → ∃ d w, c.toStep v = .ok d ∧ c.toMillivolt d = .ok w ∧
        |w.toInt - v.toInt| * 4095 ≤ high.toInt ∧ (high ≤ 4095 → w = v)) ∧
      (4095 ≤ high → ∀ d, 0 ≤ d ∧ d ≤ 4095 →
        ∃ w, c.toMillivolt d = .ok w ∧ c.toStep w = .ok d) := by
  obtain ⟨rfl, h⟩ := make_ok_iff.mp made
  have hpos : 0 < high.toInt := Int32.lt_iff_toInt_lt.mp h.rising
  refine ⟨fun v within => ?_, fun fine d within => ?_⟩
  · obtain ⟨d, hd, hstep⟩ := ltc2620_toStep made within
    have hsteps := h.toStep_bounds hd
    rw [ltc2620_maxStep made] at hsteps
    obtain ⟨w, hw, hvoltage⟩ := ltc2620_toMillivolt made hsteps
    obtain ⟨hnear, hexact⟩ := voltage_there_and_back hpos hstep hvoltage
    exact ⟨d, w, hd, hw, hnear, fun coarse =>
      Int32.toInt_inj.mp (hexact (Int32.le_iff_toInt_le.mp coarse))⟩
  · obtain ⟨w, hw, hvoltage⟩ := ltc2620_toMillivolt made within
    have hwithin : 0 ≤ w ∧ w ≤ high :=
      ⟨(h.toMillivolt_bounds hw).1, h.toMillivolt_le (.inl (Int32.le_of_lt h.rising)) hw⟩
    obtain ⟨d', hd', hstep⟩ := ltc2620_toStep made hwithin
    have hback := step_there_and_back hpos (Int32.le_iff_toInt_le.mp fine) hvoltage
    have hsame : d' = d := Int32.toInt_inj.mp (hstep.trans hback.symm)
    exact ⟨w, hw, hsame ▸ hd'⟩

/-- Of 2048 mV each comes back; of 9000 mV, where a step is more than two, each step. -/
theorem ltc2620_round_trip_both_scales :
    ltc2620 2048 = .ok mythen3 ∧
      (∃ d w, mythen3.toStep 1024 = .ok d ∧ mythen3.toMillivolt d = .ok w ∧ w = 1024) ∧
      ltc2620 9000 = .ok ⟨0, 9000, 4096⟩ ∧
      ∃ w, toMillivolt ⟨0, 9000, 4096⟩ 1234 = .ok w ∧ toStep ⟨0, 9000, 4096⟩ w = .ok 1234 := by
  have fine : ltc2620 2048 = .ok mythen3 := by decide
  have coarse : ltc2620 9000 = .ok ⟨0, 9000, 4096⟩ := by decide
  obtain ⟨d, w, hd, hw, _, hexact⟩ := (ltc2620_round_trip fine).1 1024 (by decide)
  exact ⟨fine, ⟨d, w, hd, hw, hexact (by decide)⟩, coarse,
    (ltc2620_round_trip coarse).2 (by decide) 1234 (by decide)⟩

end Converter

end DacBank
