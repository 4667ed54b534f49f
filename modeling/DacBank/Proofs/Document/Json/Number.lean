import DacBank.Document.Json.Number
import DacBank.Proofs.Text.Digits

namespace DacBank.Document.Json

open Text

/-- The brackets of lists and of tables. -/
def Closes (c : Char) : Prop :=
  c = ']' ∨ c = '\x7d'

/-- A value stands at the end of its text, or a comma or a bracket follows it. -/
def Ends : List Char → Prop
  | [] => True
  | c :: _ => c = ',' ∨ Closes c

theorem Ends.digitRun {ds rest : List Char} (h : Ends rest) (hds : ∀ d ∈ ds, d.isDigit = true) :
    digitRun (ds ++ rest) = (ds, rest) := by
  have hstop : rest.takeWhile Char.isDigit = [] ∧ rest.dropWhile Char.isDigit = rest := by
    cases rest with
    | nil => exact ⟨rfl, rfl⟩
    | cons c rest => obtain rfl | rfl | rfl := h <;> exact ⟨rfl, rfl⟩
  rw [Json.digitRun, List.takeWhile_append_of_pos hds, List.dropWhile_append_of_pos hds, hstop.1,
    hstop.2, List.append_nil]

theorem readWhole_natDigits (n : Nat) {rest : List Char} (h : Ends rest) :
    readWhole (natDigits n ++ rest) = some (natDigits n, rest) := by
  rw [readWhole, h.digitRun isDigit_natDigits]
  split
  · rename_i hrun
    exact absurd (Prod.mk.inj hrun).1 (natDigits_ne_nil n)
  · rename_i hrun
    have hzero := natDigits_eq_zero_cons (Prod.mk.inj hrun).1
    cases hzero
  · rfl

theorem Ends.readFraction {rest : List Char} (h : Ends rest) :
    readFraction rest = some (none, rest) := by
  cases rest with
  | nil => rfl
  | cons c rest => obtain rfl | rfl | rfl := h <;> rfl

theorem Ends.readExponent {rest : List Char} (h : Ends rest) :
    readExponent rest = some (none, rest) := by
  cases rest with
  | nil => rfl
  | cons c rest => obtain rfl | rfl | rfl := h <;> rfl

theorem le_natOfDigits_from (n : Nat) (ds : List Char) :
    n ≤ ds.foldl (fun n c => 10 * n + digitValue c) n := by
  induction ds generalizing n with
  | nil => exact Nat.le_refl n
  | cons d ds ih =>
    calc n ≤ 10 * n + digitValue d := by omega
      _ ≤ (d :: ds).foldl (fun n c => 10 * n + digitValue c) n := ih _

/-- The number only grows, so no digit in front of the last one reaches the limit. -/
theorem leading_eq (n : Nat) (ds : List Char)
    (h : ds.foldl (fun n c => 10 * n + digitValue c) n < limit64) :
    leading n ds = (ds.foldl (fun n c => 10 * n + digitValue c) n, []) := by
  induction ds generalizing n with
  | nil => rfl
  | cons d ds ih =>
    have hfits : 10 * n + digitValue d < limit64 := Nat.lt_of_le_of_lt (le_natOfDigits_from _ ds) h
    rw [leading]
    simp only [hfits, ↓reduceIte]
    exact ih _ h

theorem leading_natDigits {n : Nat} (h : n < limit64) : leading 0 (natDigits n) = (n, []) := by
  have hvalue : (natDigits n).foldl (fun n c => 10 * n + digitValue c) 0 = n :=
    natOfDigits_natDigits n
  rw [leading_eq 0 (natDigits n) (by rwa [hvalue]), hvalue]

/-- The integers that some type of 64 bits holds. -/
def Holds64 (n : Int) : Prop :=
  -Int.ofNat (Nat.pow 2 63) ≤ n ∧ n < Int.ofNat (Nat.pow 2 64)

theorem Holds64.natAbs_lt {n : Int} (h : Holds64 n) : n.natAbs < limit64 := by
  obtain ⟨hlow, hhigh⟩ := h
  simp only [Int.ofNat_eq_natCast] at hlow hhigh
  have hwide : Nat.pow 2 63 < Nat.pow 2 64 := by decide
  simp only [limit64]
  omega

theorem Holds64.numberValue {n : Int} (h : Holds64 n) :
    numberValue (decide (n < 0)) ⟨natDigits n.natAbs, none, none⟩ = some (.integer n) := by
  have hleading := leading_natDigits h.natAbs_lt
  obtain ⟨hlow, hhigh⟩ := h
  simp only [Int.ofNat_eq_natCast] at hlow hhigh
  by_cases hneg : n < 0
  · have hnonzero : n.natAbs ≠ 0 := by omega
    have hfits : ¬Nat.pow 2 63 < n.natAbs := by omega
    have hvalue : -(n.natAbs : Int) = n := by omega
    simp only [Json.numberValue, hleading, hneg, hnonzero, hfits, decide_true, Option.isNone_none,
      and_self, or_self, and_false, ↓reduceIte, hvalue]
  · have hvalue : (n.natAbs : Int) = n := by omega
    simp only [Json.numberValue, hleading, hneg, decide_false, Option.isNone_none, and_self,
      Bool.false_eq_true, false_and, ↓reduceIte, hvalue]

theorem readNumber_intDigits {n : Int} (hn : Holds64 n) {rest : List Char} (h : Ends rest) :
    readNumber (intDigits n ++ rest) = some (.integer n, rest) := by
  have hwhole := readWhole_natDigits n.natAbs h
  have hvalue := hn.numberValue
  unfold readNumber
  by_cases hneg : n < 0
  · simp only [hneg, decide_true] at hvalue
    simp [intDigits, hneg, hwhole, h.readFraction, h.readExponent, hvalue]
  · simp only [hneg, decide_false] at hvalue
    obtain ⟨c, cs, hcons, hc⟩ := natDigits_cons n.natAbs
    have hminus : c ≠ '-' := ne_of_isDigit hc (by decide)
    rw [hcons] at hwhole hvalue
    rw [List.cons_append] at hwhole
    simp [intDigits, hneg, hcons, hminus, hwhole, h.readFraction, h.readExponent, hvalue]

end DacBank.Document.Json
