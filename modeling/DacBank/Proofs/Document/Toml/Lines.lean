import DacBank.Document.Toml.Reader
import DacBank.Document.Toml.Writer
import DacBank.Proofs.Document.Record
import DacBank.Proofs.Document.Toml.Quoting
import DacBank.Proofs.Document.Toml.Scalar

namespace DacBank.Document.Toml

open Text Text.Reader

/-- A text that a value is read from up to the end of its line, with no blank in front. -/
structure Written (text : List Char) (v : Value) : Prop where
  front : ∃ c rest, text = c :: rest ∧ c ≠ ' ' ∧ c ≠ '\t'
  read : ∀ rest, readValue nestingLimit (text ++ '\n' :: rest) = some (v, '\n' :: rest)

theorem readValue_simple {c : Char} (hlist : c ≠ '[') (htable : c ≠ '\x7b') (s : List Char) :
    readValue nestingLimit (c :: s) = readSimple (c :: s) := by
  unfold nestingLimit readValue
  simp [hlist, htable]

theorem writeText_front (s : List Char) :
    ∃ c rest, writeText s = c :: rest ∧ (c = '"' ∨ c = '\'') := by
  unfold writeText
  cases Quoting.choose s with
  | basic => exact ⟨'"', _, rfl, .inl rfl⟩
  | literal => exact ⟨'\'', _, rfl, .inr rfl⟩
  | longBasic => exact ⟨'"', _, rfl, .inl rfl⟩
  | longLiteral => exact ⟨'\'', _, rfl, .inr rfl⟩

theorem written_text (s : String) : Written (writeText s.toList) (.text s) := by
  obtain ⟨c, u, hu, hc⟩ := writeText_front s.toList
  have hother : c ≠ ' ' ∧ c ≠ '\t' ∧ c ≠ '[' ∧ c ≠ '\x7b' := by
    rcases hc with rfl | rfl
    · decide
    · decide
  refine ⟨⟨c, u, hu, hother.1, hother.2.1⟩, ?_⟩
  intro rest
  have hread := readText_writeText s.toList rest
  rw [hu, List.cons_append] at hread ⊢
  rw [readValue_simple hother.2.2.1 hother.2.2.2]
  simp only [readSimple, hc, ↓reduceIte, hread, Option.map_some, String.ofList_toList]

theorem written_integer {n : Int} (hn : n.natAbs < Nat.pow 2 64) :
    Written (intDigits n) (.integer n) := by
  obtain ⟨c, u, hu, hc⟩ := intDigits_front n
  have hne : ∀ d, d.isDigit = false → d ≠ '-' → c ≠ d := by
    intro d hd hminus
    rcases hc with rfl | hc
    · exact hminus.symm
    · exact ne_of_isDigit hc hd
  have hquote : ¬ (c = '"' ∨ c = '\'') := by
    rintro (h | h)
    · exact hne '"' (by decide) (by decide) h
    · exact hne '\'' (by decide) (by decide) h
  refine ⟨⟨c, u, hu, hne ' ' (by decide) (by decide), hne '\t' (by decide) (by decide)⟩, ?_⟩
  intro rest
  have hread := readScalar_intDigits n rest
  rw [hu, List.cons_append] at hread ⊢
  rw [readValue_simple (hne '[' (by decide) (by decide)) (hne '\x7b' (by decide) (by decide))]
  simp only [readSimple, hquote, ↓reduceIte, hread, integerValue_of_natAbs_lt hn]

theorem written_natural {n : Nat} (hn : n < Nat.pow 2 64) : Written (natDigits n) (.integer n) := by
  have hdigits : intDigits n = natDigits n := by
    simp [intDigits]
  rw [← hdigits]
  exact written_integer hn

theorem written_word32 (n : Int32) : Written (intDigits n.toInt) (writeWord32 n) := by
  apply written_integer
  have h64 : Nat.pow 2 64 = 18446744073709551616 := rfl
  have hlow := n.le_toInt
  have hhigh := n.toInt_lt
  omega

theorem written_register (r : Register) : Written (natDigits r.raw.toNat) (writeRegister r) := by
  apply written_natural
  have h64 : Nat.pow 2 64 = 18446744073709551616 := rfl
  have hhigh := r.raw.toNat_lt
  omega

theorem written_emptyList : Written ['[', ']'] (.list []) :=
  ⟨⟨'[', [']'], rfl, by decide, by decide⟩, fun _ => rfl⟩

/-- A key that needs no quotes. -/
def isBare (key : String) : Bool :=
  !key.toList.isEmpty && key.toList.all isBareChar

theorem isBare_iff {key : String} :
    isBare key = true ↔ key.toList ≠ [] ∧ ∀ c ∈ key.toList, isBareChar c = true := by
  simp [isBare]

theorem bare_front {key : String} (hkey : isBare key = true) :
    ∃ c cs, key.toList = c :: cs ∧ isBareChar c = true := by
  obtain ⟨hne, hbare⟩ := isBare_iff.mp hkey
  obtain ⟨c, cs, hcs⟩ := List.exists_cons_of_ne_nil hne
  exact ⟨c, cs, hcs, hbare c (by rw [hcs]; exact List.mem_cons_self)⟩

theorem readPath_bare {key : String} (hkey : isBare key = true) (rest : List Char) :
    readPath (key.toList ++ ' ' :: '=' :: rest) = some (⟨[], key⟩, ' ' :: '=' :: rest) := by
  obtain ⟨_, hbare⟩ := isBare_iff.mp hkey
  have htake : (key.toList ++ ' ' :: '=' :: rest).takeWhile isBareChar = key.toList := by
    rw [List.takeWhile_append_of_pos hbare, List.takeWhile_cons_of_neg (by decide), List.append_nil]
  have hdrop : (key.toList ++ ' ' :: '=' :: rest).dropWhile isBareChar = ' ' :: '=' :: rest := by
    rw [List.dropWhile_append_of_pos hbare, List.dropWhile_cons_of_neg (by decide)]
  have hread : readKey (key.toList ++ ' ' :: '=' :: rest) = some (key, ' ' :: '=' :: rest) := by
    obtain ⟨c, cs, hcs, hc⟩ := bare_front hkey
    rw [hcs, List.cons_append] at htake hdrop ⊢
    simp only [readKey, hc, ↓reduceIte, htake, hdrop, ← hcs, String.ofList_toList]
  have hmore : many readNextKey (' ' :: '=' :: rest) = ([], ' ' :: '=' :: rest) :=
    (Takes.done _).many rfl
  simp only [readPath, hread, hmore, List.length_nil, Path.ofKeys]
  rfl

theorem readEntry_writeEntry {key : String} (hkey : isBare key = true) {value : List Char}
    {v : Value} (h : Written value v) (rest : List Char) :
    readEntry skipBlanks (readValue nestingLimit) (writeEntry key value ++ rest) =
      some ((⟨[], key⟩, v), '\n' :: rest) := by
  have htext : writeEntry key value ++ rest =
      key.toList ++ ' ' :: '=' :: ' ' :: (value ++ '\n' :: rest) := by
    simp [writeEntry]
  have hsign : skipBlanks (' ' :: '=' :: ' ' :: (value ++ '\n' :: rest)) =
      '=' :: ' ' :: (value ++ '\n' :: rest) := rfl
  have hblank : skipBlanks (' ' :: (value ++ '\n' :: rest)) = value ++ '\n' :: rest := by
    obtain ⟨c, u, rfl, hspace, htab⟩ := h.front
    simp [skipBlanks, hspace, htab]
  rw [htext]
  simp only [readEntry, readPath_bare hkey, hsign, hblank, h.read]

/-- The line of an entry. -/
theorem readLine_entry {key : String} (hkey : isBare key = true) {value : List Char} {v : Value}
    (h : Written value v) (rest : List Char) :
    readLine (writeEntry key value ++ rest) = some (.entry ⟨[], key⟩ v, rest) := by
  have hentry := readEntry_writeEntry hkey h rest
  obtain ⟨c, cs, hcs, hc⟩ := bare_front hkey
  have hne : ∀ d, isBareChar d = false → c ≠ d := by
    rintro d hd rfl
    rw [hc] at hd
    cases hd
  obtain ⟨s, hs⟩ : ∃ s, writeEntry key value ++ rest = c :: s := by
    simp [writeEntry, hcs]
  rw [hs] at hentry ⊢
  have hskip : skipBlanks (c :: s) = c :: s := by
    simp [skipBlanks, hne ' ' (by decide), hne '\t' (by decide)]
  have hcontent : readContent (c :: s) = some (.entry ⟨[], key⟩ v, '\n' :: rest) := by
    simp [readContent, hne '[' (by decide), hne '#' (by decide), hne '\n' (by decide),
      hne '\r' (by decide), hentry]
  have hend : readLineEnd ('\n' :: rest) = some rest := rfl
  simp only [readLine, hskip, hcontent, hend, Option.map_some]

theorem readLine_blank (rest : List Char) : readLine ('\n' :: rest) = some (.blank, rest) :=
  rfl

/-- The line above the entries of each DAC. -/
theorem readLine_header (rest : List Char) :
    readLine ("[[dacs]]\n".toList ++ rest) = some (.header .tables ⟨[], "dacs"⟩, rest) := by
  rfl

def entryLine (e : String × Value) : Line :=
  .entry ⟨[], e.1⟩ e.2

theorem takes_entry {key : String} (hkey : isBare key = true) {value : List Char} {v : Value}
    (h : Written value v) (rest : List Char) :
    Takes readLine (writeEntry key value ++ rest) [entryLine (key, v)] rest := by
  have hlen : 0 < key.toList.length := List.length_pos_iff.mpr (isBare_iff.mp hkey).1
  refine .one (readLine_entry hkey h rest) ?_
  simp only [writeEntry, List.length_append]
  omega

theorem takes_blank (rest : List Char) : Takes readLine ('\n' :: rest) [.blank] rest :=
  .one (readLine_blank rest) (Nat.lt_succ_self _)

/-- The header of a DAC and its entries. -/
def dacLines (d : Dac) : List Line :=
  .header .tables ⟨[], "dacs"⟩ :: (dacEntries d).map entryLine

theorem takes_writeDac (d : Dac) (rest : List Char) :
    Takes readLine (writeDac d ++ rest) (dacLines d) rest := by
  have hname {rest} := takes_entry (rfl : isBare "name" = true) (written_text d.name) rest
  have hregister {rest} := takes_entry (rfl : isBare "register" = true)
    (written_register d.register) rest
  have hmin {rest} := takes_entry (rfl : isBare "min" = true) (written_word32 d.min) rest
  have hmax {rest} := takes_entry (rfl : isBare "max" = true) (written_word32 d.max) rest
  have hdefault {rest} := takes_entry (rfl : isBare "default" = true) (written_word32 d.default) rest
  have hheader {rest} : Takes readLine ("[[dacs]]\n".toList ++ rest)
      [.header .tables ⟨[], "dacs"⟩] rest := .one (readLine_header rest) (by simp; omega)
  unfold writeDac
  rw [List.append_assoc, List.append_assoc, List.append_assoc, List.append_assoc, List.append_assoc]
  exact hheader.trans (hname.trans (hregister.trans (hmin.trans (hmax.trans hdefault))))

/-- The lines of several DACs, with an empty one between them. -/
def dacsLines : List Dac → List Line
  | [] => []
  | [d] => dacLines d
  | d :: rest => dacLines d ++ .blank :: dacsLines rest

theorem takes_writeDacs (dacs : List Dac) (rest : List Char) :
    Takes readLine (writeDacs dacs ++ rest) (dacsLines dacs) rest := by
  induction dacs with
  | nil => exact .done rest
  | cons d dacs ih =>
    cases dacs with
    | nil => exact takes_writeDac d rest
    | cons e dacs =>
      simp only [writeDacs, List.append_assoc, List.cons_append]
      refine (takes_writeDac d _).trans ?_
      exact (takes_blank _).trans ih

end DacBank.Document.Toml
