import DacBank.Proofs.Dac.Written

namespace DacBank

namespace Simulator

/-- No module of a register is written by both batches. -/
def Apart (ws vs : List (WriteCall Channel)) : Prop :=
  ∀ w ∈ ws, ∀ v ∈ vs, w.channel.register = v.channel.register → ∀ m ∈ w.modules, m ∉ v.modules

section
variable {s : Simulator} {ws vs : List (WriteCall Channel)} {q : Register} {m : Nat} {old : Int32}

theorem foldl_leave_elsewhere (h : ∀ w ∈ ws, w.channel.register = q → m ∉ w.modules) :
    ws.foldl (leave q m) old = old :=
  foldl_leave (fun w hw hq hm => absurd hm (h w hw hq)) (.inl rfl)

/-- At each place at most one of the batches has an effect. -/
theorem Apart.foldl_leave_comm (apart : Apart ws vs) :
    (vs ++ ws).foldl (leave q m) old = (ws ++ vs).foldl (leave q m) old := by
  rw [List.foldl_append, List.foldl_append]
  by_cases hws : ∀ w ∈ ws, w.channel.register = q → m ∉ w.modules
  · rw [foldl_leave_elsewhere hws, foldl_leave_elsewhere hws]
  · push Not at hws
    obtain ⟨w, hw, hwq, hwm⟩ := hws
    have hvs : ∀ v ∈ vs, v.channel.register = q → m ∉ v.modules :=
      fun v hv hvq => apart w hw v hv (hwq.trans hvq.symm) m hwm
    rw [foldl_leave_elsewhere hvs, foldl_leave_elsewhere hvs]

theorem writeAll_append_ok_iff :
    (s.writeAll (ws ++ vs)).1 = .ok () ↔
      (s.writeAll ws).1 = .ok () ∧ ((s.writeAll ws).2.writeAll vs).1 = .ok () := by
  rw [writeAll_append]
  cases (s.writeAll ws).1 <;> simp

/-- Whether two batches are made together does not depend on their order. -/
theorem writeAll_ok_comm :
    (s.writeAll (vs ++ ws)).1 = .ok () ↔ (s.writeAll (ws ++ vs)).1 = .ok () := by
  rw [writeAll_ok_iff, writeAll_ok_iff, List.forall_mem_append, List.forall_mem_append,
    List.length_append, List.length_append, Nat.add_comm, and_comm (a := ∀ w ∈ vs, s.Takes w)]

/-- Two batches that are made together leave the same values, the same counter of writes and the
same budget in either order. -/
theorem Apart.writeAll_comm (apart : Apart ws vs) (raw : ∀ w ∈ ws ++ vs, w.channel.unit = .raw)
    (made : (s.writeAll (ws ++ vs)).1 = .ok ()) :
    (∀ r, (s.writeAll (vs ++ ws)).2.values r = (s.writeAll (ws ++ vs)).2.values r) ∧
      (s.writeAll (vs ++ ws)).2.writes = (s.writeAll (ws ++ vs)).2.writes ∧
      (s.writeAll (vs ++ ws)).2.budget = (s.writeAll (ws ++ vs)).2.budget := by
  have made' : (s.writeAll (vs ++ ws)).1 = .ok () := writeAll_ok_comm.mpr made
  have raw' : ∀ w ∈ vs ++ ws, w.channel.unit = .raw :=
    fun w hw => raw w (List.mem_append.mpr (List.mem_append.mp hw).symm)
  have hlength : (vs ++ ws).length = (ws ++ vs).length := by
    rw [List.length_append, List.length_append, Nat.add_comm]
  refine ⟨fun r => ?_, ?_, ?_⟩
  · rw [values, values, (writeAll_sameSetting s _).modules, (writeAll_sameSetting s _).modules]
    apply List.map_congr_left
    intro m hm
    have hm : m < s.modules := List.mem_range.mp hm
    rw [rawValue_writeAll raw' made' r hm, rawValue_writeAll raw made r hm,
      apart.foldl_leave_comm]
  · rw [state_writeAll made', state_writeAll made, hlength]
  · rw [state_writeAll made', state_writeAll made, hlength]

end

end Simulator

open Simulator

namespace Dac

/-- The writes of two DACs on a detector of `count` modules share no place. -/
def Independent (count : Nat) (d : Dac) (x : Selector) (e : Dac) (y : Selector) : Prop :=
  d.register ≠ e.register ∨
    ∀ ms ns, x.resolve count = .ok ms → y.resolve count = .ok ns → ms.Disjoint ns

section
variable {d e : Dac} {x y : Selector} {p q : Payload} {s : Simulator} {ms ns : List Nat}

theorem Independent.apart (h : Independent s.modules d x e y)
    (hx : x.resolve s.modules = .ok ms) (hy : y.resolve s.modules = .ok ns) :
    Apart (Property.wanted ⟨d.register, .raw⟩ ms p) (Property.wanted ⟨e.register, .raw⟩ ns q) := by
  intro w hw v hv hregister m hmw hmv
  rw [Property.wanted_channel w hw, Property.wanted_channel v hv] at hregister
  rcases h with hne | hdisjoint
  · exact hne hregister
  · exact hdisjoint ms ns hx hy (Property.mem_modules_wanted hw hmw)
      (Property.mem_modules_wanted hv hmv)

/-- One write behind another one comes to what both batches together come to. -/
theorem setModules_two (hx : x.resolve s.modules = .ok ms)
    (fitx : ∀ values, p = .perModule values → values.length = ms.length)
    (hy : y.resolve s.modules = .ok ns)
    (fity : ∀ values, q = .perModule values → values.length = ns.length) :
    let ws := Property.wanted ⟨d.register, .raw⟩ ms p ++ Property.wanted ⟨e.register, .raw⟩ ns q
    let first := (d.setModules x p).run detector s
    let second := (e.setModules y q).run detector first.state
    (first.result = .ok () ∧ second.result = .ok () ↔ (s.writeAll ws).1 = .ok ()) ∧
      (first.result = .ok () → second.state = (s.writeAll ws).2) := by
  intro ws first second
  have hfirst := d.setModules_carries hx fitx
  have hstate : first.state = (s.writeAll (Property.wanted ⟨d.register, .raw⟩ ms p)).2 :=
    hfirst.state
  have hmodules : first.state.modules = s.modules := by
    rw [hstate, (writeAll_sameSetting s _).modules]
  have hsecond := e.setModules_carries (s := first.state) (hmodules ▸ hy) fity
  constructor
  · rw [hfirst.ok_iff, hsecond.ok_iff, writeAll_append_ok_iff, hstate]
  · intro ok
    rw [hsecond.state, hstate, writeAll_append, hfirst.ok_iff.mp ok]

/-- Writes that share no place can be exchanged: where one of them succeeds behind the other, so do
both in the other order, and they leave the same values in all registers, the same counter of writes
and the same budget. -/
theorem independent_writes_commute (apart : Independent s.modules d x e y)
    (first : ((d.setModules x p).run detector s).result = .ok ())
    (second : ((e.setModules y q).run detector
      ((d.setModules x p).run detector s).state).result = .ok ()) :
    let ab := (e.setModules y q).run detector ((d.setModules x p).run detector s).state
    let b := (e.setModules y q).run detector s
    let ba := (d.setModules x p).run detector b.state
    b.result = .ok () ∧ ba.result = .ok () ∧ (∀ r, ba.state.values r = ab.state.values r) ∧
      ba.state.writes = ab.state.writes ∧ ba.state.budget = ab.state.budget := by
  intro ab b ba
  obtain ⟨ms, hx, fitx⟩ := resolves_of_ok first
  obtain ⟨ns, hy, fity⟩ := resolves_of_ok second
  rw [(written_of_ok hx first).sameSetting.modules] at hy
  obtain ⟨hab, hstate⟩ := setModules_two (d := d) (e := e) hx fitx hy fity
  obtain ⟨hba, hstate'⟩ := setModules_two (d := e) (e := d) hy fity hx fitx
  have made := hab.mp ⟨first, second⟩
  obtain ⟨first', second'⟩ := hba.mpr (writeAll_ok_comm.mpr made)
  have raw : ∀ w ∈ Property.wanted (⟨d.register, .raw⟩ : Channel) ms p ++
      Property.wanted ⟨e.register, .raw⟩ ns q, w.channel.unit = .raw := by
    intro w hw
    rcases List.mem_append.mp hw with hw | hw <;> exact Property.wanted_raw w hw
  obtain ⟨hvalues, hwrites, hbudget⟩ := (apart.apart hx hy).writeAll_comm raw made
  rw [← hstate first, ← hstate' first'] at hvalues hwrites hbudget
  exact ⟨first', second', hvalues, hwrites, hbudget⟩

/-- Two DACs share a register. One is written at once on two modules and the other on the module
between them, which takes the two writes that are left. -/
theorem independent_writes_commute_shared :
    let d : Dac := ⟨"vth1", ⟨0⟩, 0, 4000, 1200⟩
    let e : Dac := ⟨"vth2", ⟨0⟩, 0, 4000, 1000⟩
    let x : Selector := .modules [2, 0, 2]
    let y : Selector := .modules [1]
    let s := (Simulator.ofModules 3).failAfterWrites (some 2)
    let a := (d.setModules x (.scalar 9000)).run detector s
    let ab := (e.setModules y (.perModule [-1])).run detector a.state
    let b := (e.setModules y (.perModule [-1])).run detector s
    let ba := (d.setModules x (.scalar 9000)).run detector b.state
    Independent s.modules d x e y ∧ a.result = .ok () ∧ ab.result = .ok () ∧
      ab.state.values ⟨0⟩ = [9000, -1, 9000] ∧ b.result = .ok () ∧ ba.result = .ok () ∧
      ba.state.values ⟨0⟩ = [9000, -1, 9000] ∧ ba.state.writes = 2 ∧
      ba.state.budget = some 0 := by
  intro d e x y s a ab b ba
  have apart : Independent s.modules d x e y := by
    refine .inr fun ms ns hms hns => ?_
    obtain rfl : [0, 2] = ms := Except.ok.inj hms
    obtain rfl : [1] = ns := Except.ok.inj hns
    intro m hm hn
    rw [List.mem_singleton.mp hn] at hm
    exact absurd hm (by decide)
  have first : a.result = .ok () := rfl
  have second : ab.result = .ok () := rfl
  have hleft : ab.state.values ⟨0⟩ = [9000, -1, 9000] := by decide +kernel
  have hcounted : ab.state.writes = 2 := by decide +kernel
  have hspent : ab.state.budget = some 0 := by decide +kernel
  obtain ⟨hb, hba, hvalues, hwrites, hbudget⟩ := independent_writes_commute apart first second
  with_reducible exact ⟨apart, first, second, hleft, hb, hba, (hvalues ⟨0⟩).trans hleft,
    hwrites.trans hcounted, hbudget.trans hspent⟩

end

end Dac

end DacBank
