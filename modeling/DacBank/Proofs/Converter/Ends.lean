import DacBank.Proofs.Converter.Accepted

namespace DacBank

namespace Conversion

variable (k : Conversion)

theorem outLow_le_result (rising : k.outLow ≤ k.outHigh) : k.outLow ≤ k.result :=
  k.le_result (k.le_point le_rfl (Int.cast_le.mpr rising))

theorem point_le_outHigh (rising : k.outLow ≤ k.outHigh) : k.point ≤ k.outHigh :=
  k.point_le (Int.cast_le.mpr rising) le_rfl

theorem result_le_outHigh_succ (rising : k.outLow ≤ k.outHigh) : k.result ≤ k.outHigh + 1 := by
  have hpoint := k.point_le_outHigh rising
  rcases le_or_gt 0 k.outHigh with nonneg | neg
  · exact (k.result_le nonneg hpoint).trans (Int.le_add_one le_rfl)
  · exact k.result_le_succ neg hpoint

theorem outHigh_small : |k.outHigh| ≤ 2 ^ 32 :=
  (k.outHigh_le.trans k.size_le).trans (by norm_num)

theorem outLow_small : |k.outLow| ≤ 2 ^ 32 :=
  (k.outLow_le.trans k.size_le).trans (by norm_num)

theorem result_le_outHigh (rising : k.outLow ≤ k.outHigh)
    (exact : 0 ≤ k.outHigh ∨ |k.product| ≤ 2 ^ 53) : k.result ≤ k.outHigh := by
  have hpoint := k.point_le_outHigh rising
  rcases exact with nonneg | fits
  · exact k.result_le nonneg hpoint
  · exact k.result_le_of_fits fits k.outHigh_small hpoint

theorem result_of_first (first : k.value = k.inLow) : k.result = k.outLow := by
  have hpoint := k.point_of_first first
  have hfits : |k.product| ≤ 2 ^ 53 := by
    rw [product, first, sub_self, zero_mul, abs_zero]
    norm_num
  exact le_antisymm (k.result_le_of_fits hfits k.outLow_small hpoint.le)
    (k.le_result hpoint.ge)

theorem abs_product_le (rising : k.outLow ≤ k.outHigh) :
    |k.product| ≤ k.width * (k.outHigh - k.outLow) := by
  have hvalue : 0 ≤ k.value - k.inLow := Int.sub_nonneg_of_le k.low
  have hwidth : k.value - k.inLow ≤ k.width := Int.sub_le_sub_right k.high _
  have hout : 0 ≤ k.outHigh - k.outLow := Int.sub_nonneg_of_le rising
  rw [product, abs_of_nonneg (mul_nonneg hvalue hout)]
  exact mul_le_mul_of_nonneg_right hwidth hout

theorem outHigh_le_result_of_last (last : k.value = k.inHigh) : k.outHigh ≤ k.result :=
  k.le_result (k.point_of_last last).ge

end Conversion

namespace Converter

namespace Accepted

variable {c : Converter} (h : c.Accepted)
include h

theorem voltages_rise : c.lowMillivolt.toInt ≤ c.highMillivolt.toInt :=
  (Int32.lt_iff_toInt_lt.mp h.rising).le

section
variable {step r : Int32}

theorem toMillivolt_result (hr : c.toMillivolt step = .ok r) :
    ∃ within : 0 ≤ step ∧ step ≤ c.maxStep, r.toInt = (h.voltage within).result := by
  have within := h.toMillivolt_ok_iff.mp ⟨r, hr⟩
  obtain ⟨r', hr', hresult⟩ := h.toMillivolt_eq within
  obtain rfl : r' = r := Except.ok.inj (hr'.symm.trans hr)
  exact ⟨within, hresult⟩

theorem toMillivolt_bounds (hr : c.toMillivolt step = .ok r) :
    c.lowMillivolt ≤ r ∧ r.toInt ≤ c.highMillivolt.toInt + 1 := by
  obtain ⟨within, hresult⟩ := h.toMillivolt_result hr
  rw [Int32.le_iff_toInt_le, hresult]
  exact ⟨(h.voltage within).outLow_le_result h.voltages_rise,
    (h.voltage within).result_le_outHigh_succ h.voltages_rise⟩

theorem toMillivolt_le (exact : 0 ≤ c.highMillivolt ∨
      (c.steps.toInt - 1) * (c.highMillivolt.toInt - c.lowMillivolt.toInt) ≤ 2 ^ 53)
    (hr : c.toMillivolt step = .ok r) : r ≤ c.highMillivolt := by
  obtain ⟨within, hresult⟩ := h.toMillivolt_result hr
  rw [Int32.le_iff_toInt_le, hresult]
  refine (h.voltage within).result_le_outHigh h.voltages_rise (exact.imp ?_ fun fits => ?_)
  · exact Int32.le_iff_toInt_le.mp
  · refine ((h.voltage within).abs_product_le h.voltages_rise).trans ?_
    rw [h.voltage_width within]
    exact fits

theorem toMillivolt_first : c.toMillivolt 0 = .ok c.lowMillivolt := by
  obtain ⟨r, hr, hresult⟩ :=
    h.toMillivolt_eq ⟨Int32.le_refl 0, Int32.le_of_lt h.maxStep_pos⟩
  rw [Conversion.result_of_first _ rfl] at hresult
  rw [hr, Int32.toInt_inj.mp hresult]

theorem toMillivolt_last : ∃ r, c.toMillivolt c.maxStep = .ok r ∧ c.highMillivolt ≤ r := by
  obtain ⟨r, hr, hresult⟩ :=
    h.toMillivolt_eq ⟨Int32.le_of_lt h.maxStep_pos, Int32.le_refl c.maxStep⟩
  refine ⟨r, hr, Int32.le_iff_toInt_le.mpr ?_⟩
  rw [hresult]
  exact Conversion.outHigh_le_result_of_last _ rfl

end

section
variable {millivolt r : Int32}

theorem toStep_bounds (hr : c.toStep millivolt = .ok r) : 0 ≤ r ∧ r ≤ c.maxStep := by
  have within := h.toStep_ok_iff.mp ⟨r, hr⟩
  obtain ⟨r', hr', hresult⟩ := h.toStep_eq within
  obtain rfl : r' = r := Except.ok.inj (hr'.symm.trans hr)
  have hrise : (h.position within).outLow ≤ (h.position within).outHigh :=
    Int32.le_iff_toInt_le.mp (Int32.le_of_lt h.maxStep_pos)
  rw [Int32.le_iff_toInt_le, Int32.le_iff_toInt_le, hresult]
  exact ⟨(h.position within).outLow_le_result hrise,
    (h.position within).result_le_outHigh hrise (.inl hrise)⟩

theorem toStep_first : c.toStep c.lowMillivolt = .ok 0 := by
  obtain ⟨r, hr, hresult⟩ := h.toStep_eq ⟨Int32.le_refl _, Int32.le_of_lt h.rising⟩
  rw [Conversion.result_of_first _ rfl] at hresult
  have hzero : r = 0 := Int32.toInt_inj.mp hresult
  rw [hr, hzero]

theorem toStep_last : c.toStep c.highMillivolt = .ok c.maxStep := by
  obtain ⟨r, hr, hresult⟩ := h.toStep_eq ⟨Int32.le_of_lt h.rising, Int32.le_refl _⟩
  have hle : c.maxStep ≤ r := by
    rw [Int32.le_iff_toInt_le, hresult]
    exact Conversion.outHigh_le_result_of_last _ rfl
  rw [hr, Int32.le_antisymm (h.toStep_bounds hr).2 hle]

end

end Accepted

/-- Steps from the first to the last are converted, and no others; so are millivolts. The first step
is the lowest voltage, and both ends of the voltages are the ends of the steps. No result is outside
the ends, but for one exception: where the highest voltage is negative and the largest product has
more than 53 digits, a result, and that of the last step too, can be one millivolt above it. -/
theorem ends_met_unless_negative {low high steps : Int32} {c : Converter}
    (accepted : make low high steps = .ok c) :
    (∀ step, (∃ r, c.toMillivolt step = .ok r) ↔ 0 ≤ step ∧ step ≤ steps - 1) ∧
      c.toMillivolt 0 = .ok low ∧
      (∃ r, c.toMillivolt (steps - 1) = .ok r ∧ high ≤ r) ∧
      (∀ step r, c.toMillivolt step = .ok r → low ≤ r ∧ r.toInt ≤ high.toInt + 1) ∧
      (0 ≤ high ∨ (steps.toInt - 1) * (high.toInt - low.toInt) ≤ 2 ^ 53 →
        c.toMillivolt (steps - 1) = .ok high ∧
        ∀ step r, c.toMillivolt step = .ok r → r ≤ high) ∧
      (∀ millivolt, (∃ r, c.toStep millivolt = .ok r) ↔ low ≤ millivolt ∧ millivolt ≤ high) ∧
      c.toStep low = .ok 0 ∧ c.toStep high = .ok (steps - 1) ∧
      ∀ millivolt r, c.toStep millivolt = .ok r → 0 ≤ r ∧ r ≤ steps - 1 := by
  obtain ⟨rfl, h⟩ := make_ok_iff.mp accepted
  obtain ⟨r, hlast, hle⟩ := h.toMillivolt_last
  refine ⟨fun _ => h.toMillivolt_ok_iff, h.toMillivolt_first, ⟨r, hlast, hle⟩,
    fun _ _ => h.toMillivolt_bounds, fun exact => ⟨?_, fun _ _ => h.toMillivolt_le exact⟩,
    fun _ => h.toStep_ok_iff, h.toStep_first, h.toStep_last, fun _ _ => h.toStep_bounds⟩
  have hend : high = r := Int32.le_antisymm hle (h.toMillivolt_le exact hlast)
  exact hlast.trans (congrArg Except.ok hend.symm)

/-- All voltages are negative, and the products are small. -/
theorem ends_met_unless_negative_small :
    let c : Converter := ⟨-2000, -500, 4096⟩
    make (-2000) (-500) 4096 = .ok c ∧ c.toMillivolt 4095 = .ok (-500) ∧
      c.toStep (-500) = .ok 4095 ∧ (∀ step r, c.toMillivolt step = .ok r → r ≤ -500) ∧
      ¬ ∃ r, c.toMillivolt 4096 = .ok r := by
  intro c
  have accepted : make (-2000) (-500) 4096 = .ok c := by decide
  obtain ⟨hsteps, _, _, _, hends, _, _, hlast, _⟩ := ends_met_unless_negative accepted
  obtain ⟨hhigh, hle⟩ := hends (.inr (by decide))
  refine ⟨accepted, hhigh, hlast, hle, ?_⟩
  rw [hsteps]
  decide

/-- All voltages are negative, and the last step comes out as 0 mV. -/
theorem last_step_above_voltages :
    let c : Converter := ⟨-2147483648, -1, 2147482881⟩
    make (-2147483648) (-1) 2147482881 = .ok c ∧ c.toMillivolt 2147482880 = .ok 0 ∧
      ¬ (0 : Int32) ≤ -1 := by
  intro c
  exact ⟨by decide +kernel, by decide +kernel, by decide⟩

end Converter

end DacBank
