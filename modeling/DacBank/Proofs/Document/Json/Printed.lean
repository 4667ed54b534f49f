import DacBank.Document.Json.Reader
import DacBank.Document.Json.Writer
import DacBank.Proofs.Document.Json.Number
import DacBank.Proofs.Text.Reader

namespace DacBank.Document.Json

open Text Text.Reader

theorem readHex_lowerHex {n : Nat} (hn : n < 65536) (rest : List Char) :
    readHex 4 (fourHex lowerHex n ++ rest) = some (n, rest) :=
  readHex_fourHex (fun _ hd => hexValue?_lowerHex hd) hn rest

/-- The number of an escaped character is too small for half of a pair. -/
theorem readChar_escaped {c : Char} (hc : c.toNat < 32) (rest : List Char) :
    readChar ('\\' :: 'u' :: (fourHex lowerHex c.toNat ++ rest)) = some (c, rest) := by
  have hread := readHex_lowerHex (n := c.toNat) (by omega) rest
  have hpair : ¬(0xD800 ≤ c.toNat ∧ c.toNat < 0xDC00) := by omega
  have hvalid : c.toNat.isValidChar := c.valid
  simp only [readChar, hread, hpair, ↓reduceIte, charOf?, hvalid, Char.ofNat_toNat, Option.map_some]

theorem readChar_plain {c : Char} (hc : ¬(c < ' ' ∨ c = '"' ∨ c = '\\')) (rest : List Char) :
    readChar (c :: rest) = some (c, rest) := by
  unfold readChar
  split
  · rename_i h
    exact absurd (.inr (.inr (List.cons.inj h).1)) hc
  · rename_i h
    exact absurd (.inr (.inr (List.cons.inj h).1)) hc
  · rename_i h
    obtain ⟨rfl, rfl⟩ := List.cons.inj h
    rw [if_neg hc]
  · rename_i h
    cases h

theorem readChar_writeChar (c : Char) (rest : List Char) :
    readChar (writeChar c ++ rest) = some (c, rest) := by
  unfold writeChar
  split
  iterate 7 rfl
  next hquote hslash _ _ _ _ _ =>
    split
    · rename_i hcode
      exact readChar_escaped hcode rest
    · rename_i hplain
      refine readChar_plain ?_ rest
      rintro (h | h | h)
      · exact hplain h
      · exact hquote h
      · exact hslash h

theorem writeChar_ne_nil (c : Char) : writeChar c ≠ [] := by
  unfold writeChar
  split
  iterate 7 exact List.cons_ne_nil _ _
  next =>
    split
    · exact List.cons_ne_nil _ _
    · exact List.cons_ne_nil _ _

theorem readText_writeText (s : String) (rest : List Char) :
    readText (s.toList.flatMap writeChar ++ '"' :: rest) = some (s, rest) := by
  have htakes : Takes readChar (s.toList.flatMap writeChar ++ '"' :: rest) s.toList ('"' :: rest) :=
    Takes.flatMap s.toList (fun c _ rest => readChar_writeChar c rest)
      (fun c _ => writeChar_ne_nil c) _
  simp only [readText, htakes.many rfl, String.ofList_toList]

theorem Ends.skipBlanks {rest : List Char} (h : Ends rest) : skipBlanks rest = rest := by
  cases rest with
  | nil => rfl
  | cons c rest => obtain rfl | rfl | rfl := h <;> rfl

/-- Whether a character opens a value or an entry: it is no blank and closes no bracket. -/
def Opens (c : Char) : Prop :=
  c ≠ ' ' ∧ c ≠ '\n' ∧ c ≠ '\r' ∧ c ≠ '\t' ∧ c ≠ ']' ∧ c ≠ '\x7d'

instance (c : Char) : Decidable (Opens c) :=
  inferInstanceAs (Decidable (_ ∧ _))

theorem Opens.skipBlanks {c : Char} (h : Opens c) (s : List Char) :
    skipBlanks (c :: s) = c :: s := by
  obtain ⟨hspace, hline, hreturn, htab, _⟩ := h
  exact List.dropWhile_cons_of_neg (by simp [hspace, hline, hreturn, htab])

theorem opens_of_isDigit {c : Char} (h : c.isDigit = true) : Opens c :=
  ⟨ne_of_isDigit h (by decide), ne_of_isDigit h (by decide), ne_of_isDigit h (by decide),
    ne_of_isDigit h (by decide), ne_of_isDigit h (by decide), ne_of_isDigit h (by decide)⟩

/-- What is written for `a` is read back from in front of whatever may follow a value. -/
structure Printed {α : Type} (item : Reader α) (written : List Char) (a : α) : Prop where
  opens : ∃ c rest, written = c :: rest ∧ Opens c
  read : ∀ rest, Ends rest → item (written ++ rest) = some (a, rest)

section
variable {α : Type} {item : Reader α} {write : α → List Char} {close : Char}

theorem Printed.skipBlanks {written : List Char} {a : α} (h : Printed item written a)
    (rest : List Char) : skipBlanks (written ++ rest) = written ++ rest := by
  obtain ⟨c, cs, rfl, hc⟩ := h.opens
  exact hc.skipBlanks _

theorem Opens.ne_of_closes {c close : Char} (h : Opens c) (hclose : Closes close) : c ≠ close := by
  obtain ⟨_, _, _, _, hbracket, hbrace⟩ := h
  obtain rfl | rfl := hclose
  · exact hbracket
  · exact hbrace

theorem listedUpTo_last {written : List Char} {a : α} (h : Printed item written a)
    (hclose : Closes close) (n : Nat) (mayClose : Bool) (rest : List Char) :
    listedUpTo ⟨close, false⟩ skipBlanks item (n + 1) mayClose (written ++ close :: rest) =
      some ([a], rest) := by
  have hends : Ends (close :: rest) := .inr hclose
  have hcomma : close ≠ ',' := by obtain rfl | rfl := hclose <;> decide
  have hread := h.read _ hends
  obtain ⟨c, cs, rfl, hc⟩ := h.opens
  have hother := hc.ne_of_closes hclose
  rw [List.cons_append] at hread
  simp [listedUpTo, hc.skipBlanks, hother, hread, hends.skipBlanks, hcomma]

theorem listedUpTo_more {written : List Char} {a : α} (h : Printed item written a)
    (hclose : Closes close) (n : Nat) (mayClose : Bool) (rest : List Char) :
    listedUpTo ⟨close, false⟩ skipBlanks item (n + 1) mayClose (written ++ ',' :: rest) =
      (listedUpTo ⟨close, false⟩ skipBlanks item n false rest).map fun (as, stop) =>
        (a :: as, stop) := by
  have hends : Ends (',' :: rest) := .inl rfl
  have hread := h.read _ hends
  obtain ⟨c, cs, rfl, hc⟩ := h.opens
  have hother := hc.ne_of_closes hclose
  rw [List.cons_append] at hread
  simp only [listedUpTo, List.cons_append, hc.skipBlanks, hother, hread, hends.skipBlanks]
  cases listedUpTo ⟨close, false⟩ skipBlanks item n false rest <;> simp

/-- By induction on the items, each read up to the comma behind it. -/
theorem listedUpTo_separated (hclose : Closes close) (a : α) (as : List α)
    (hprinted : ∀ x ∈ a :: as, Printed item (write x) x) {n : Nat} (hn : as.length < n)
    (mayClose : Bool) (rest : List Char) :
    listedUpTo ⟨close, false⟩ skipBlanks item n mayClose
      (separated ((a :: as).map write) ++ close :: rest) = some (a :: as, rest) := by
  obtain ⟨n, rfl⟩ : ∃ k, n = k + 1 := ⟨n - 1, by omega⟩
  have ha := hprinted a List.mem_cons_self
  induction as generalizing a n mayClose with
  | nil => exact listedUpTo_last ha hclose n mayClose rest
  | cons b bs ih =>
    have hlater : ∀ x ∈ b :: bs, Printed item (write x) x := fun x hx =>
      hprinted x (List.mem_cons_of_mem a hx)
    obtain ⟨n, rfl⟩ : ∃ k, n = k + 1 := ⟨n - 1, by simp only [List.length_cons] at hn; omega⟩
    have hrest := ih b hlater false n (by simpa using hn) (hlater b List.mem_cons_self)
    simp only [List.map_cons, separated, List.append_assoc, List.cons_append] at hrest ⊢
    rw [listedUpTo_more ha hclose, hrest]
    rfl

theorem length_le_length_separated {texts : List (List Char)} (h : ∀ t ∈ texts, t ≠ []) :
    texts.length ≤ (separated texts).length := by
  induction texts with
  | nil => exact Nat.le_refl 0
  | cons t ts ih =>
    have ht : 0 < t.length := List.length_pos_iff.mpr (h t List.mem_cons_self)
    have hts := ih fun u hu => h u (List.mem_cons_of_mem t hu)
    cases ts with
    | nil =>
      simp only [separated, List.length_cons, List.length_nil]
      omega
    | cons u us =>
      simp only [separated, List.length_append, List.length_cons] at hts ⊢
      omega

/-- A list is read back whose items are. -/
theorem listed_separated (hclose : Closes close) (as : List α)
    (hprinted : ∀ a ∈ as, Printed item (write a) a) (rest : List Char) :
    listed ⟨close, false⟩ skipBlanks item (separated (as.map write) ++ close :: rest) =
      some (as, rest) := by
  unfold listed
  cases as with
  | nil =>
    have hends : Ends (close :: rest) := .inr hclose
    simp [separated, listedUpTo, hends.skipBlanks]
  | cons a as =>
    have hwritten : ∀ t ∈ (a :: as).map write, t ≠ [] := by
      intro t ht
      obtain ⟨x, hx, rfl⟩ := List.mem_map.mp ht
      obtain ⟨c, cs, hc, _⟩ := (hprinted x hx).opens
      rw [hc]
      exact List.cons_ne_nil c cs
    have hlength := length_le_length_separated hwritten
    refine listedUpTo_separated hclose a as hprinted ?_ true rest
    simp only [List.length_map, List.length_cons, List.length_append] at hlength ⊢
    omega

end

/-- Values of so many levels, whose numbers are integers of 64 bits. -/
inductive Printable : Nat → Value → Prop where
  | null {depth : Nat} : Printable (depth + 1) .null
  | boolean {depth : Nat} (b : Bool) : Printable (depth + 1) (.boolean b)
  | integer {depth : Nat} {n : Int} (holds : Holds64 n) : Printable (depth + 1) (.integer n)
  | text {depth : Nat} (s : String) : Printable (depth + 1) (.text s)
  | list {depth : Nat} {items : List Value} (items_printable : ∀ v ∈ items, Printable depth v) :
      Printable (depth + 1) (.list items)
  | table {depth : Nat} {entries : Entries}
      (entries_printable : ∀ e ∈ entries, Printable depth e.2) :
      Printable (depth + 1) (.table entries)

theorem readValue_intDigits (depth : Nat) (n : Int) (rest : List Char) :
    readValue (depth + 1) (intDigits n ++ rest) = readNumber (intDigits n ++ rest) := by
  obtain ⟨c, cs, hfront, hc⟩ := intDigits_front n
  have hother : ∀ d, d ≠ '-' → d.isDigit = false → c ≠ d := by
    intro d hminus hdigit
    obtain rfl | hc := hc
    · exact hminus.symm
    · exact ne_of_isDigit hc hdigit
  rw [hfront, List.cons_append, readValue] <;>
    exact fun _ h => hother _ (by decide) (by decide) (List.cons.inj h).1

theorem writeItems_eq (items : List Value) : writeItems items = items.map writeValue := by
  induction items with
  | nil => rfl
  | cons v items ih => rw [writeItems, ih, List.map_cons]

def writeEntry (e : String × Value) : List Char :=
  writeText e.1 ++ ':' :: writeValue e.2

theorem writeEntries_eq (entries : Entries) : writeEntries entries = entries.map writeEntry := by
  induction entries with
  | nil => rfl
  | cons e entries ih =>
    obtain ⟨key, v⟩ := e
    rw [writeEntries, ih, List.map_cons]
    rfl

theorem Printed.entry {value : Reader Value} {e : String × Value}
    (h : Printed value (writeValue e.2) e.2) : Printed (readEntry value) (writeEntry e) e where
  opens := ⟨'"', _, rfl, by decide⟩
  read := by
    intro rest hrest
    have hkey := readText_writeText e.1 (':' :: (writeValue e.2 ++ rest))
    have hcolon : Opens ':' := by decide
    have hvalue := h.read rest hrest
    simp [writeEntry, writeText, readEntry, hkey, hcolon.skipBlanks, h.skipBlanks, hvalue]

theorem Printable.printed {depth : Nat} {v : Value} (h : Printable depth v) :
    Printed (readValue depth) (writeValue v) v := by
  induction h with
  | null => exact ⟨⟨'n', _, rfl, by decide⟩, fun _ _ => rfl⟩
  | boolean b => cases b <;> exact ⟨⟨_, _, rfl, by decide⟩, fun _ _ => rfl⟩
  | @integer depth n holds =>
    refine ⟨?_, fun rest hrest => ?_⟩
    · obtain ⟨c, cs, hfront, hc⟩ := intDigits_front n
      refine ⟨c, cs, hfront, ?_⟩
      obtain rfl | hc := hc
      · decide
      · exact opens_of_isDigit hc
    · rw [writeValue, readValue_intDigits, readNumber_intDigits holds hrest]
  | text s =>
    refine ⟨⟨'"', _, rfl, by decide⟩, fun rest _ => ?_⟩
    simp [writeValue, writeText, readValue, readText_writeText]
  | list _ ih =>
    refine ⟨⟨'[', _, rfl, by decide⟩, fun rest _ => ?_⟩
    have hitems := listed_separated (.inl rfl) _ ih rest
    simp [writeValue, writeItems_eq, readValue, hitems]
  | table _ ih =>
    refine ⟨⟨'\x7b', _, rfl, by decide⟩, fun rest _ => ?_⟩
    have hentries := listed_separated (.inr rfl) _ (fun e he => (ih e he).entry) rest
    simp [writeValue, writeEntries_eq, readValue, hentries]

/-- A document within the nesting limit is read back from its text. -/
theorem read?_write {v : Value} (h : Printable nestingLimit v) : read? (write v) = some v := by
  have hread := h.printed.read [] trivial
  have hskip := h.printed.skipBlanks []
  rw [List.append_nil] at hread hskip
  simp only [read?, write, String.toList_ofList, hskip, hread]
  rfl

end DacBank.Document.Json
