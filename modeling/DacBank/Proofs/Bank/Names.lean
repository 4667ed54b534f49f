import DacBank.Bank
import DacBank.Simulator
import Mathlib.Data.List.Induction
import Mathlib.Data.List.Nodup

namespace DacBank.Bank

open Program

theorem contains_iff {b : Bank} {name : String} : b.contains name = true ↔ name ∈ b.names :=
  b.indexed.contains_iff

theorem register_new {b : Bank} {d : Dac} (h : d.name ∉ b.names) :
    ∃ b', b.register d = .ok b' ∧ b'.dacs = b.dacs ++ [d] ∧
      b'.index = b.index.insert d.name b.dacs.length :=
  ⟨_, dif_neg (mt contains_iff.mp h), rfl, rfl⟩

theorem register_known {b : Bank} {d : Dac} (h : d.name ∈ b.names) :
    b.register d = .error (.duplicateDac d.name) :=
  dif_pos (contains_iff.mpr h)

/-- What is registered behind other DACs goes to the bank that holds them. -/
theorem registerAll_append {b b' : Bank} {front : List Dac} (h : b.registerAll front = .ok b')
    (behind : List Dac) : b.registerAll (front ++ behind) = b'.registerAll behind := by
  induction front generalizing b with
  | nil =>
    cases h
    rfl
  | cons d rest ih =>
    rw [registerAll] at h
    rw [List.cons_append, registerAll]
    cases hreg : b.register d with
    | error e =>
      rw [hreg] at h
      cases h
    | ok next =>
      rw [hreg] at h
      exact ih h

/-- By induction on the DACs: each is new to the bank that holds those before it, and its place is
put in front of theirs in the index. -/
theorem registerAll_distinct {b : Bank} {dacs : List Dac}
    (h : ((b.dacs ++ dacs).map Dac.name).Nodup) :
    ∃ b', b.registerAll dacs = .ok b' ∧ b'.dacs = b.dacs ++ dacs ∧
      b'.index = ((dacs.map Dac.name).zipIdx b.dacs.length).reverse ++ b.index := by
  induction dacs generalizing b with
  | nil => exact ⟨b, rfl, (List.append_nil b.dacs).symm, rfl⟩
  | cons d rest ih =>
    have hnew : d.name ∉ b.names := by
      intro hmem
      rw [List.map_append, List.nodup_append] at h
      exact h.2.2 _ hmem _ List.mem_cons_self rfl
    obtain ⟨next, hreg, hdacs, hindex⟩ := register_new hnew
    have hsplit : next.dacs ++ rest = b.dacs ++ d :: rest := by
      rw [hdacs, List.append_assoc, List.singleton_append]
    obtain ⟨b', hall, hb', hplaces⟩ := ih (hsplit ▸ h)
    refine ⟨b', ?_, hb'.trans hsplit, ?_⟩
    · rw [registerAll, hreg]
      exact hall
    · rw [hplaces, hindex, hdacs]
      simp [NameIndex.insert]

/-- The DACs of different names are registered one after the other, each at the next place. -/
theorem ofDacs_distinct {dacs : List Dac} (h : (dacs.map Dac.name).Nodup) :
    ofDacs dacs = .ok (.ofDistinct dacs h) := by
  obtain ⟨⟨all, index, indexed⟩, hall, hdacs, hindex⟩ := registerAll_distinct (b := empty) h
  have hplaces : index = (dacs.map Dac.name).zipIdx.reverse := by
    simpa [empty] using hindex
  change all = dacs at hdacs
  subst hdacs hplaces
  exact hall

/-- A DAC whose name stands before it ends the registration, whatever is behind it. -/
theorem ofDacs_repeated {front behind : List Dac} {d : Dac} (h : (front.map Dac.name).Nodup)
    (hd : d.name ∈ front.map Dac.name) :
    ofDacs (front ++ d :: behind) = .error (.duplicateDac d.name) := by
  rw [ofDacs, registerAll_append (ofDacs_distinct h), registerAll, register_known hd]

theorem exists_repeated {dacs : List Dac} (h : ¬ (dacs.map Dac.name).Nodup) :
    ∃ front d behind, dacs = front ++ d :: behind ∧ (front.map Dac.name).Nodup ∧
      d.name ∈ front.map Dac.name := by
  induction dacs using List.reverseRecOn with
  | nil => exact absurd List.nodup_nil h
  | append_singleton dacs d ih =>
    by_cases hdacs : (dacs.map Dac.name).Nodup
    · refine ⟨dacs, d, [], rfl, hdacs, ?_⟩
      by_contra hnew
      refine h ?_
      rw [List.map_append, List.map_singleton, List.nodup_append_comm, List.singleton_append]
      exact List.nodup_cons.mpr ⟨hnew, hdacs⟩
    · obtain ⟨front, e, behind, rfl, hfront, he⟩ := ih hdacs
      exact ⟨front, e, behind ++ [d], by simp, hfront, he⟩

/-- The index tells the place of each DAC's name, so the DAC that stands there is the one. -/
theorem find?_eq_some_iff {b : Bank} {name : String} {d : Dac} :
    b.find? name = some d ↔ d ∈ b.dacs ∧ d.name = name := by
  rw [find?_eq_bind, Option.bind_eq_some_iff]
  constructor
  · rintro ⟨i, hi, hd⟩
    have hname := (b.indexed name i).mp hi
    rw [List.getElem?_map, hd] at hname
    exact ⟨List.mem_of_getElem? hd, Option.some.inj hname⟩
  · rintro ⟨hmem, rfl⟩
    obtain ⟨i, hi⟩ := List.mem_iff_getElem?.mp hmem
    refine ⟨i, (b.indexed d.name i).mpr ?_, hi⟩
    rw [List.getElem?_map, hi]
    rfl

theorem get_ok_iff {b : Bank} {name : String} {d : Dac} :
    b.get name = .ok d ↔ d ∈ b.dacs ∧ d.name = name := by
  rw [← find?_eq_some_iff, get]
  cases b.find? name <;> simp

theorem get_unknown {b : Bank} {name : String} (h : name ∉ b.names) :
    b.get name = .error (.unknownDac name) := by
  rw [get]
  cases hfind : b.find? name with
  | none => rfl
  | some d =>
    obtain ⟨hmem, hname⟩ := find?_eq_some_iff.mp hfind
    exact absurd (List.mem_map.mpr ⟨d, hmem, hname⟩) h

/-- A bank is made of a list exactly if the names are distinct, without a call to the detector. It
has the DACs in the order of the list and an index in step with them, which tells for each name the
place where it stands and for other names none; so each name finds the one DAC that carries it.
Other names are unknown, and setting values under one of them asks nothing of the detector. Of a
list that is refused, the first DAC is told whose name stands before it. -/
theorem create_finds_by_name {σ : Type} (h : Detector Channel σ) (dacs : List Dac) (s : σ) :
    ((dacs.map Dac.name).Nodup →
      ∃ b : Bank, (create dacs).run h s = ⟨.ok b, [.reported (.created dacs.length)], s⟩ ∧
        b.dacs = dacs ∧ b.names = dacs.map Dac.name ∧
        (∀ name i, b.index.lookup name = some i ↔ (dacs.map Dac.name)[i]? = some name) ∧
        (∀ name, b.contains name = true ↔ name ∈ dacs.map Dac.name) ∧
        (∀ name d, b.get name = .ok d ↔ d ∈ dacs ∧ d.name = name) ∧
        ∀ name ∉ dacs.map Dac.name, b.get name = .error (.unknownDac name) ∧
          ∀ payload s', (b.set name payload).run h s' = ⟨.error (.unknownDac name), [], s'⟩) ∧
    (¬ (dacs.map Dac.name).Nodup →
      ∃ front d behind, dacs = front ++ d :: behind ∧ (front.map Dac.name).Nodup ∧
        d.name ∈ front.map Dac.name ∧
        (create dacs).run h s = ⟨.error (.duplicateDac d.name), [], s⟩) := by
  constructor
  · intro hdistinct
    let b := ofDistinct dacs hdistinct
    refine ⟨b, ?_, rfl, rfl, b.indexed, fun name => contains_iff, fun name d => get_ok_iff, ?_⟩
    · rw [create, ofDacs_distinct hdistinct]
      rfl
    · intro name hname
      have hget := get_unknown (b := b) hname
      refine ⟨hget, fun payload s' => ?_⟩
      rw [set, hget]
      rfl
  · intro hrepeated
    obtain ⟨front, d, behind, rfl, hfront, hd⟩ := exists_repeated hrepeated
    refine ⟨front, d, behind, rfl, hfront, hd, ?_⟩
    rw [create, ofDacs_repeated hfront hd]
    rfl

/-- The DACs of a board, and a list whose third DAC has the name of the first, the fourth that of
the second. -/
theorem create_finds_by_name_mythen3 :
    let repeated : List Dac := [⟨"vth1", ⟨0⟩, 0, 10, 1⟩, ⟨"vth2", ⟨1⟩, 0, 10, 2⟩,
      ⟨"vth1", ⟨2⟩, 0, 10, 3⟩, ⟨"vth2", ⟨3⟩, 0, 10, 4⟩]
    let s := Simulator.ofModules 2
    (Mythen3.dacs.map Dac.name).Nodup ∧
      (∃ b, ((create Mythen3.dacs).run Simulator.detector s).result = .ok b ∧
        b.get "vcas" = .ok (Mythen3.dac .cas) ∧
        ((b.set "Vcas" (.scalar 7)).run Simulator.detector s).record = []) ∧
      ¬ (repeated.map Dac.name).Nodup ∧
      ((create repeated).run Simulator.detector s).result = .error (.duplicateDac "vth1") ∧
      ∃ front d behind, repeated = front ++ d :: behind ∧ d.name ∈ front.map Dac.name := by
  intro repeated s
  have hdistinct : (Mythen3.dacs.map Dac.name).Nodup := by decide
  have hrepeated : ¬ (repeated.map Dac.name).Nodup := by decide
  obtain ⟨b, hrun, _, _, _, _, hget, hunknown⟩ :=
    (create_finds_by_name Simulator.detector Mythen3.dacs s).1 hdistinct
  obtain ⟨front, d, behind, hsplit, _, hd, _⟩ :=
    (create_finds_by_name Simulator.detector repeated s).2 hrepeated
  have hset := (hunknown "Vcas" (by decide)).2 (.scalar 7) s
  exact ⟨hdistinct, ⟨b, by rw [hrun], (hget "vcas" _).mpr ⟨by decide, rfl⟩, by rw [hset]⟩,
    hrepeated, rfl, front, d, behind, hsplit, hd⟩

end DacBank.Bank
