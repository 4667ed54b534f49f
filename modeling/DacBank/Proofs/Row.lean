import DacBank.Row
import DacBank.Proofs.Text.Digits

namespace DacBank.Row

open Text

/-- The number in a column. -/
def readCell (cell : List Char) : Int :=
  let (negative, digits) := readSign (cell.dropWhile (· = ' '))
  if negative then -(natOfDigits digits : Int) else natOfDigits digits

def cut : Nat → List Char → List (List Char)
  | 0, _ => []
  | n + 1, text => text.take valueWidth :: cut n (text.drop valueWidth)

/-- The columns of a text, as many as it has room for. -/
def columns (text : List Char) : List (List Char) :=
  cut (text.length / valueWidth) text

/-- The text behind the name and the colon. -/
def behindName (name line : String) : List Char :=
  line.toList.drop (max nameWidth name.length + 1)

/-- A value has at most as many characters as its column. -/
def Fits (v : Int32) : Prop :=
  -9999 ≤ v ∧ v ≤ 99999

instance (v : Int32) : Decidable (Fits v) :=
  inferInstanceAs (Decidable (_ ∧ _))

theorem readCell_cell (v : Int32) : readCell (cell v) = v.toInt := by
  obtain ⟨c, rest, hfront, hc⟩ := intDigits_front v.toInt
  have hblank : c ≠ ' ' := by
    rcases hc with rfl | hc
    · decide
    · exact ne_of_isDigit hc (by decide)
  have hdrop : (cell v).dropWhile (· = ' ') = intDigits v.toInt := by
    rw [cell, padLeft, List.dropWhile_append_of_pos (by simp), hfront,
      List.dropWhile_cons_of_neg (by simpa using hblank)]
  rw [readCell, hdrop, readSign_intDigits]
  by_cases neg : v.toInt < 0
  · simp only [neg, decide_true, ↓reduceIte, natOfDigits_natDigits]
    omega
  · simp only [neg, decide_false, Bool.false_eq_true, ↓reduceIte, natOfDigits_natDigits]
    omega

theorem length_cell {v : Int32} (fits : Fits v) : (cell v).length = valueWidth := by
  have hlow : -9999 ≤ v.toInt := Int32.le_iff_toInt_le.mp fits.1
  have hhigh : v.toInt ≤ 99999 := Int32.le_iff_toInt_le.mp fits.2
  have hshort : (intDigits v.toInt).length ≤ 5 := by
    unfold intDigits
    split
    · have hfour : v.toInt.natAbs < 10000 := by omega
      exact Nat.succ_le_succ (length_natDigits_le (by decide) hfour)
    · have hfive : v.toInt.natAbs < 100000 := by omega
      exact length_natDigits_le (by decide) hfive
  simp only [cell, padLeft, valueWidth, List.length_append, List.length_replicate]
  omega

section
variable {values : List Int32}

theorem length_cells (fits : ∀ v ∈ values, Fits v) :
    (cells values).length = values.length * valueWidth := by
  induction values with
  | nil => rfl
  | cons v values ih =>
    obtain ⟨hv, hvalues⟩ := List.forall_mem_cons.mp fits
    change (cell v ++ cells values).length = _
    rw [List.length_append, length_cell hv, ih hvalues, List.length_cons, Nat.succ_mul,
      Nat.add_comm]

theorem cut_cells (fits : ∀ v ∈ values, Fits v) :
    cut values.length (cells values) = values.map cell := by
  induction values with
  | nil => rfl
  | cons v values ih =>
    obtain ⟨hv, hvalues⟩ := List.forall_mem_cons.mp fits
    change cut (values.length + 1) (cell v ++ cells values) = _
    rw [cut, List.take_left' (length_cell hv), List.drop_left' (length_cell hv), ih hvalues,
      List.map_cons]

theorem columns_cells (fits : ∀ v ∈ values, Fits v) : columns (cells values) = values.map cell := by
  have hcount : (cells values).length / valueWidth = values.length := by
    rw [length_cells fits]
    exact Nat.mul_div_cancel _ (by decide)
  rw [columns, hcount, cut_cells fits]

theorem length_nameColumn (name : String) :
    (nameColumn name).length = max nameWidth name.length + 1 := by
  rw [← String.length_toList]
  simp only [nameColumn, padRight, List.length_append, List.length_replicate, List.length_cons,
    List.length_nil]
  omega

theorem behindName_format (name : String) (values : List Int32) :
    behindName name (format name values) = cells values := by
  rw [behindName, format, String.toList_ofList, List.drop_left' (length_nameColumn name)]

/-- The columns make up the text behind the name, and hold the values in their order. -/
theorem columns_format (name : String) (fits : ∀ v ∈ values, Fits v) :
    let text := behindName name (format name values)
    (columns text).flatten = text ∧ (∀ c ∈ columns text, c.length = 5) ∧
      (columns text).map readCell = values.map Int32.toInt := by
  intro text
  have htext : text = cells values := behindName_format name values
  rw [htext, columns_cells fits]
  refine ⟨List.flatMap_def.symm, ?_, ?_⟩
  · intro c hc
    obtain ⟨v, hv, rfl⟩ := List.mem_map.mp hc
    exact length_cell (fits v hv)
  · rw [List.map_map]
    exact List.map_congr_left fun v _ => readCell_cell v

end

theorem format_injective (name : String) {xs ys : List Int32} (hx : ∀ v ∈ xs, Fits v)
    (hy : ∀ v ∈ ys, Fits v) (h : format name xs = format name ys) : xs = ys := by
  have hx' := (columns_format name hx).2.2
  have hy' := (columns_format name hy).2.2
  rw [h] at hx'
  exact (List.map_inj_right fun _ _ => Int32.toInt_inj.mp).mp (hx'.symm.trans hy')

end DacBank.Row
