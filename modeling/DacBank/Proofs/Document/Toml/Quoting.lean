import DacBank.Document.Toml.Quoting
import DacBank.Proofs.Text.Digits
import DacBank.Proofs.Text.Reader

namespace DacBank.Document.Toml

open Text Text.Reader

theorem isPlain_of_not_isCode {c : Char} (hc : isCode c = false) (hn : c ≠ '\n') :
    isPlain c = true := by
  simp only [isCode, Bool.or_eq_false_iff, Bool.and_eq_false_iff, decide_eq_false_iff_not,
    bne_eq_false_iff_eq, beq_eq_false_iff_ne] at hc
  obtain ⟨(hle | htab) | hnewline, hdel⟩ := hc
  · have hspace : ' ' ≤ c := Char.not_lt.mp hle
    simp [isPlain, hspace, hdel]
  · simp [isPlain, htab]
  · exact absurd hnewline hn

theorem toNat_lt_of_isCode {c : Char} (hc : isCode c = true) : c.toNat < 65536 := by
  simp only [isCode, Bool.or_eq_true, Bool.and_eq_true, decide_eq_true_eq, beq_iff_eq] at hc
  rcases hc with ⟨⟨hlt, _⟩, _⟩ | rfl
  · have hspace : c.toNat < ' '.toNat := hlt
    exact Nat.lt_trans hspace (by decide)
  · decide

/-- What is written for a character is an escape of it, or the character itself. -/
theorem escapeChar_cases (c : Char) :
    (∃ e, escapeChar c = '\\' :: e ∧ ∀ rest, readEscape (e ++ rest) = some (c, rest)) ∨
      (escapeChar c = [c] ∧ isPlain c = true ∧ c ≠ '"' ∧ c ≠ '\\' ∧ c ≠ '\n' ∧ c ≠ '\r') := by
  unfold escapeChar
  split
  iterate 7 exact .inl ⟨_, rfl, fun rest => rfl⟩
  next hb ht hn hf hr hq hs =>
    cases hc : isCode c with
    | true =>
      refine .inl ⟨'u' :: fourHex upperHex c.toNat, rfl, ?_⟩
      intro rest
      have hread := readHexChar_fourHex (toNat_lt_of_isCode hc) rest
      simp [readEscape, simpleEscape?, hread]
    | false => exact .inr ⟨rfl, isPlain_of_not_isCode hc hn, hq, hs, hn, hr⟩

theorem escapeChar_ne_nil (c : Char) : escapeChar c ≠ [] := by
  rcases escapeChar_cases c with ⟨e, he, _⟩ | ⟨he, _⟩
  · rw [he]
    exact List.cons_ne_nil _ _
  · rw [he]
    exact List.cons_ne_nil _ _

theorem readBasicChar_escapeChar (c : Char) (rest : List Char) :
    readBasicChar (escapeChar c ++ rest) = some (c, rest) := by
  rcases escapeChar_cases c with ⟨e, he, hread⟩ | ⟨he, hplain, hq, hs, _⟩
  · rw [he]
    exact hread rest
  · rw [he, List.singleton_append]
    simp [readBasicChar, hplain, hq, hs]

theorem readShort_basic (s rest : List Char) :
    readShort '"' readBasicChar (s.flatMap escapeChar ++ '"' :: rest) =
      some (String.ofList s, rest) := by
  have htakes : Takes readBasicChar (s.flatMap escapeChar ++ '"' :: rest) s ('"' :: rest) :=
    Takes.flatMap s (fun c _ rest => readBasicChar_escapeChar c rest)
      (fun c _ => escapeChar_ne_nil c) _
  simp only [readShort, htakes.many rfl, ↓reduceIte]

theorem readShort_literal {s : List Char} (hs : ∀ c ∈ s, c ≠ '\'' ∧ isPlain c = true)
    (rest : List Char) :
    readShort '\'' readLiteralChar (s ++ '\'' :: rest) = some (String.ofList s, rest) := by
  have htakes : Takes readLiteralChar (s.flatMap (fun c => [c]) ++ '\'' :: rest) s
      ('\'' :: rest) := by
    refine Takes.flatMap s ?_ (fun c _ => List.cons_ne_nil c []) _
    intro c hc rest
    simp [readLiteralChar, hs c hc]
  rw [List.flatMap_singleton'] at htakes
  simp only [readShort, htakes.many rfl, ↓reduceIte]

/-- A text between long quotes `q` and what it stands for. Of the quotes that stand for themselves no
three are in a row, and each other character is read back from its own piece. -/
inductive LongBody (q : Char) (escapes : Bool) : List Char → List Char → Prop where
  | nil : LongBody q escapes [] []
  | quote {t s : List Char} (apart : t.take 2 ≠ [q, q]) (later : LongBody q escapes t s) :
      LongBody q escapes (q :: t) (q :: s)
  | piece {p t s : List Char} {c : Char} (other : p.head? ≠ some q) (nonempty : p ≠ [])
      (read : ∀ rest, readLongChar q escapes (p ++ rest) = some ([c], rest))
      (later : LongBody q escapes t s) : LongBody q escapes (p ++ t) (c :: s)

namespace LongBody

variable {q : Char} {escapes : Bool} {t s : List Char}

/-- A body of quotes alone stands for these quotes. -/
theorem eq_of_forall_quote (h : LongBody q escapes t s) (ht : ∀ c ∈ t, c = q) : s = t := by
  induction h with
  | nil => rfl
  | quote apart later ih => rw [ih fun c hc => ht c (List.mem_cons_of_mem q hc)]
  | @piece p t s c other nonempty read later ih =>
    obtain ⟨d, p, rfl⟩ := List.exists_cons_of_ne_nil nonempty
    exact absurd (congrArg some (ht d (by simp))) other

/-- A body that makes three quotes together with the closing ones is one quote or nothing. -/
theorem eq_replicate_of_take (apart : t.take 2 ≠ [q, q]) {rest : List Char}
    (htake : (t ++ (triple q ++ rest)).take 2 = [q, q]) :
    t = List.replicate t.length q ∧ t.length ≤ 1 := by
  match t, htake, apart with
  | [], _, _ => exact ⟨rfl, Nat.zero_le 1⟩
  | [c], htake, _ =>
    simp only [triple, List.cons_append, List.nil_append, List.take_succ_cons, List.take_zero,
      List.cons.injEq] at htake
    exact ⟨by rw [htake.1]; rfl, Nat.le_refl 1⟩
  | c :: d :: u, htake, apart => exact absurd htake apart

/-- The items before the closing quotes, and the quotes that belong to the text but stand right
before these. -/
theorem takes (h : LongBody q escapes t s) (hq : q ≠ '\\') (rest : List Char) :
    ∃ parts k, k ≤ 2 ∧ parts.flatten ++ List.replicate k q = s ∧
      Takes (readLongChar q escapes) (t ++ (triple q ++ rest)) parts
        (List.replicate k q ++ (triple q ++ rest)) := by
  induction h with
  | nil => exact ⟨[], 0, by omega, rfl, .done _⟩
  | @quote t s apart later ih =>
    by_cases hstop : (t ++ (triple q ++ rest)).take 2 = [q, q]
    · have ht := eq_replicate_of_take apart hstop
      have hs : s = t := later.eq_of_forall_quote (by rw [ht.1]; simp)
      refine ⟨[], t.length + 1, by omega, ?_, ?_⟩
      · rw [hs, List.replicate_succ, ← ht.1]
        rfl
      · rw [List.replicate_succ, ← ht.1]
        exact .done _
    · obtain ⟨parts, k, hk, hflat, htakes⟩ := ih
      refine ⟨[q] :: parts, k, hk, by simp [hflat], .next ?_ (by simp) htakes⟩
      simp only [List.cons_append, readLongChar, hq, false_and, ↓reduceIte, hstop]
  | @piece p t s c other nonempty read later ih =>
    obtain ⟨parts, k, hk, hflat, htakes⟩ := ih
    have hp : 0 < p.length := List.length_pos_iff.mpr nonempty
    rw [List.append_assoc]
    exact ⟨[c] :: parts, k, hk, by simp [hflat],
      .next (read _) (by simp only [List.length_append]; omega) htakes⟩

end LongBody

/-- No item of a long string begins where its closing quotes do. -/
theorem readLongChar_closing {q : Char} {escapes : Bool} (hq : q ≠ '\\') (k : Nat)
    (rest : List Char) :
    readLongChar q escapes (List.replicate k q ++ (triple q ++ rest)) = none := by
  match k with
  | 0 => simp [triple, readLongChar, hq]
  | 1 => simp [triple, readLongChar, hq]
  | 2 => simp [triple, List.replicate_succ, readLongChar, hq]
  | k + 3 => simp [List.replicate_succ, readLongChar, hq]

theorem readClosing_quotes {q : Char} {k : Nat} (hk : k ≤ 2) {rest : List Char}
    (hrest : rest.head? ≠ some q) :
    readClosing q (List.replicate k q ++ (triple q ++ rest)) = some (List.replicate k q, rest) := by
  have hstop : rest.takeWhile (· == q) = [] ∧ rest.dropWhile (· == q) = rest := by
    cases rest with
    | nil => exact ⟨rfl, rfl⟩
    | cons c rest =>
      have hc : c ≠ q := fun h => hrest (congrArg some h)
      simp [hc]
  match k, hk with
  | 0, _ => simp [readClosing, triple, hstop.1, hstop.2]
  | 1, _ => simp [readClosing, triple, hstop.1, hstop.2]
  | 2, _ => simp [readClosing, triple, List.replicate_succ, hstop.1, hstop.2]

theorem readLong_body {q : Char} {escapes : Bool} {t s u rest : List Char}
    (h : LongBody q escapes t s) (hq : q ≠ '\\') (hrest : rest.head? ≠ some q)
    (hu : dropNewline u = t ++ (triple q ++ rest)) :
    readLong q escapes u = some (String.ofList s, rest) := by
  obtain ⟨parts, k, hk, hflat, htakes⟩ := h.takes hq rest
  simp only [readLong, hu, htakes.many (readLongChar_closing hq k rest),
    readClosing_quotes hk hrest, hflat]

/-- The line end right behind the opening quotes is there if the text could lose one otherwise. -/
theorem dropNewline_leadingLine {s t : List Char}
    (ht : '\n' ∉ s → t.head? ≠ some '\n' ∧ t.head? ≠ some '\r') :
    dropNewline (leadingLine s ++ t) = t := by
  by_cases hs : '\n' ∈ s
  · simp [leadingLine, hs, dropNewline, readNewline]
  · obtain ⟨hn, hr⟩ := ht hs
    simp only [leadingLine, List.contains_iff_mem, hs, ↓reduceIte, List.nil_append]
    unfold dropNewline readNewline
    match t, hn, hr with
    | [], _, _ => rfl
    | c :: t, hn, hr =>
      have hn : c ≠ '\n' := fun h => hn (congrArg some h)
      have hr : c ≠ '\r' := fun h => hr (congrArg some h)
      simp [hn, hr]

theorem readLongChar_newline (q : Char) (escapes : Bool) (hq : q ≠ '\n') (rest : List Char) :
    readLongChar q escapes (['\n'] ++ rest) = some (['\n'], rest) := by
  simp [readLongChar, readNewline, isPlain, Ne.symm hq]

theorem readLongChar_escapeChar {c : Char} (rest : List Char) :
    readLongChar '"' true (escapeChar c ++ rest) = some ([c], rest) := by
  rcases escapeChar_cases c with ⟨e, he, hread⟩ | ⟨he, hplain, hq, hs, _⟩
  · simp [he, readLongChar, hread rest]
  · simp [he, readLongChar, hplain, hq, hs]

/-- Less than three quotes in a row are written as they are. -/
theorem take_escapeLong_ne {quotes n : Nat} (hn : quotes + n = 2) (s : List Char) :
    (escapeLong quotes s).take (n + 1) ≠ List.replicate (n + 1) '"' := by
  induction s generalizing quotes n with
  | nil => simp [escapeLong, List.replicate_succ]
  | cons c s ih =>
    rw [List.replicate_succ]
    by_cases hc : c = '"'
    · by_cases hquotes : quotes = 2
      · simp [escapeLong, hc, hquotes]
      · obtain ⟨m, rfl⟩ : ∃ m, n = m + 1 := ⟨n - 1, by omega⟩
        have hrest : (escapeLong (quotes + 1) s).take (m + 1) ≠ List.replicate (m + 1) '"' :=
          ih (by omega)
        simpa [escapeLong, hc, hquotes] using hrest
    · by_cases hn : c = '\n'
      · simp [escapeLong, hn]
      · rcases escapeChar_cases c with ⟨e, he, _⟩ | ⟨he, _⟩
        · simp [escapeLong, hc, hn, he]
        · simp [escapeLong, hc, hn, he]

/-- Behind a quote there are never two more. -/
theorem escapeLong_apart {quotes : Nat} (hquotes : quotes ≤ 1) (s : List Char) :
    (escapeLong (quotes + 1) s).take 2 ≠ ['"', '"'] := by
  intro htake
  have hne : (escapeLong (quotes + 1) s).take (1 - quotes + 1) ≠
      List.replicate (1 - quotes + 1) '"' := take_escapeLong_ne (by omega) s
  apply hne
  calc (escapeLong (quotes + 1) s).take (1 - quotes + 1)
    _ = ((escapeLong (quotes + 1) s).take 2).take (1 - quotes + 1) := by
      rw [List.take_take, Nat.min_eq_left (by omega)]
    _ = (List.replicate 2 '"').take (1 - quotes + 1) := by
      rw [htake]
      rfl
    _ = List.replicate (1 - quotes + 1) '"' := by
      rw [List.take_replicate, Nat.min_eq_left (by omega)]

/-- Without a line end in the text, none stands in front of a long basic string. -/
theorem escapeLong_front {s : List Char} (u : List Char) (hnewline : '\n' ∉ s) :
    (escapeLong 0 s ++ (triple '"' ++ u)).head? ≠ some '\n' ∧
      (escapeLong 0 s ++ (triple '"' ++ u)).head? ≠ some '\r' := by
  cases s with
  | nil => simp [escapeLong, triple]
  | cons c s =>
    have hn : c ≠ '\n' := fun h => hnewline (h ▸ List.mem_cons_self)
    by_cases hc : c = '"'
    · simp [escapeLong, hc]
    · rcases escapeChar_cases c with ⟨e, he, _⟩ | ⟨he, _, _, _, _, hr⟩
      · simp [escapeLong, hc, hn, he]
      · simp [escapeLong, hc, hn, he, hr]

theorem longBody_escapeLong (s : List Char) {quotes : Nat} (hquotes : quotes ≤ 2) :
    LongBody '"' true (escapeLong quotes s) s := by
  induction s generalizing quotes with
  | nil => exact .nil
  | cons c s ih =>
    by_cases hc : c = '"'
    · subst hc
      by_cases htwo : quotes = 2
      · have hbody : escapeLong quotes ('"' :: s) = ['\\', '"'] ++ escapeLong 0 s := by
          simp [escapeLong, htwo]
        rw [hbody]
        exact .piece (by decide) (by decide) (fun rest => rfl) (ih (Nat.zero_le 2))
      · have hbody : escapeLong quotes ('"' :: s) = '"' :: escapeLong (quotes + 1) s := by
          simp [escapeLong, htwo]
        rw [hbody]
        exact .quote (escapeLong_apart (by omega) s) (ih (by omega))
    · by_cases hn : c = '\n'
      · subst hn
        have hbody : escapeLong quotes ('\n' :: s) = ['\n'] ++ escapeLong 0 s := by
          simp [escapeLong]
        rw [hbody]
        exact .piece (by decide) (by decide) (readLongChar_newline '"' true (by decide))
          (ih (Nat.zero_le 2))
      · have hbody : escapeLong quotes (c :: s) = escapeChar c ++ escapeLong 0 s := by
          simp [escapeLong, hc, hn]
        rw [hbody]
        refine .piece ?_ (escapeChar_ne_nil c) readLongChar_escapeChar (ih (Nat.zero_le 2))
        rcases escapeChar_cases c with ⟨e, he, _⟩ | ⟨he, _⟩
        · simp [he]
        · simp [he, hc]

theorem longBody_literal {s : List Char} (hcode : ∀ c ∈ s, isCode c = false)
    (htriple : hasTriple '\'' s = false) : LongBody '\'' false s s := by
  induction s with
  | nil => exact .nil
  | cons c s ih =>
    have hlater : LongBody '\'' false s s := by
      apply ih
      · intro d hd
        exact hcode d (List.mem_cons_of_mem c hd)
      · match s, htriple with
        | [], _ => rfl
        | [_], _ => rfl
        | d :: e :: u, htriple => exact (Bool.or_eq_false_iff.mp htriple).2
    by_cases hc : c = '\''
    · subst hc
      refine .quote ?_ hlater
      match s, htriple with
      | [], _ => simp
      | [_], _ => simp
      | d :: e :: u, htriple =>
        have hapart := (Bool.or_eq_false_iff.mp htriple).1
        simpa using hapart
    · have hread : ∀ rest, readLongChar '\'' false ([c] ++ rest) = some ([c], rest) := by
        intro rest
        by_cases hn : c = '\n'
        · rw [hn]
          exact readLongChar_newline '\'' false (by decide) rest
        · have hplain := isPlain_of_not_isCode (hcode c List.mem_cons_self) hn
          simp [readLongChar, hplain, hc]
      exact .piece (by simpa using hc) (List.cons_ne_nil c []) hread hlater

/-- A literal string is chosen for texts that it can hold, and an empty text is none of them. -/
theorem choose_literal {s : List Char} (h : Quoting.choose s = .literal) :
    s ≠ [] ∧ ∀ c ∈ s, c ≠ '\'' ∧ isPlain c = true := by
  simp only [Quoting.choose] at h
  split at h
  · cases h
  split at h
  next hbasic hliteral =>
    simp only [Bool.and_eq_true, Bool.not_eq_true', List.any_eq_false, List.contains_eq_mem,
      decide_eq_false_iff_not] at hliteral
    obtain ⟨⟨hcode, hquote⟩, hnewline⟩ := hliteral
    refine ⟨?_, ?_⟩
    · rintro rfl
      exact hbasic rfl
    · intro c hc
      have hn : c ≠ '\n' := fun h => hnewline (h ▸ hc)
      exact ⟨fun h => hquote (h ▸ hc), isPlain_of_not_isCode (by simpa using hcode c hc) hn⟩
  next =>
    repeat' split at h
    all_goals cases h

theorem choose_longLiteral {s : List Char} (h : Quoting.choose s = .longLiteral) :
    (∀ c ∈ s, isCode c = false) ∧ hasTriple '\'' s = false := by
  simp only [Quoting.choose] at h
  split at h
  · cases h
  split at h
  · cases h
  split at h
  · cases h
  split at h
  next hlong =>
    simp only [Bool.and_eq_true, Bool.not_eq_true', List.any_eq_false] at hlong
    exact ⟨fun c hc => by simpa using hlong.1 c hc, hlong.2⟩
  next =>
    split at h
    all_goals cases h

theorem readText_basic {u : List Char} (hu : u.take 2 ≠ ['"', '"']) :
    readText ('"' :: u) = readShort '"' readBasicChar u := by
  unfold readText
  split
  next h =>
    obtain ⟨_, rfl⟩ := List.cons.inj h
    exact absurd rfl hu
  next h => cases (List.cons.inj h).1
  next => rfl

theorem readText_literal {u : List Char} (hu : u.take 2 ≠ ['\'', '\'']) :
    readText ('\'' :: u) = readShort '\'' readLiteralChar u := by
  unfold readText
  split
  next h => cases (List.cons.inj h).1
  next h =>
    obtain ⟨_, rfl⟩ := List.cons.inj h
    exact absurd rfl hu
  next => rfl

/-- A string is read back up to the end of its line, whatever its text holds. -/
theorem readText_writeText (s rest : List Char) :
    readText (writeText s ++ '\n' :: rest) = some (String.ofList s, '\n' :: rest) := by
  cases hkind : Quoting.choose s with
  | basic =>
    have htext : writeText s ++ '\n' :: rest =
        '"' :: (s.flatMap escapeChar ++ '"' :: '\n' :: rest) := by
      simp [writeText, hkind]
    rw [htext, readText_basic, readShort_basic]
    cases s with
    | nil => simp
    | cons c s =>
      rcases escapeChar_cases c with ⟨e, he, _⟩ | ⟨he, _, hq, _⟩
      · simp [he]
      · simp [he, hq]
  | literal =>
    obtain ⟨hne, hs⟩ := choose_literal hkind
    have htext : writeText s ++ '\n' :: rest = '\'' :: (s ++ '\'' :: '\n' :: rest) := by
      simp [writeText, hkind]
    rw [htext, readText_literal, readShort_literal hs]
    obtain ⟨c, s, rfl⟩ := List.exists_cons_of_ne_nil hne
    simp [hs c List.mem_cons_self]
  | longBasic =>
    have htext : writeText s ++ '\n' :: rest = '"' :: '"' :: '"' ::
        (leadingLine s ++ (escapeLong 0 s ++ (triple '"' ++ '\n' :: rest))) := by
      simp [writeText, hkind, triple]
    rw [htext]
    refine readLong_body (longBody_escapeLong s (Nat.zero_le 2)) (by decide) (by simp) ?_
    apply dropNewline_leadingLine
    exact escapeLong_front _
  | longLiteral =>
    obtain ⟨hcode, htriple⟩ := choose_longLiteral hkind
    have htext : writeText s ++ '\n' :: rest = '\'' :: '\'' :: '\'' ::
        (leadingLine s ++ (s ++ (triple '\'' ++ '\n' :: rest))) := by
      simp [writeText, hkind, triple]
    rw [htext]
    refine readLong_body (longBody_literal hcode htriple) (by decide) (by simp) ?_
    apply dropNewline_leadingLine
    intro hnewline
    cases s with
    | nil => simp [triple]
    | cons c s =>
      have hn : c ≠ '\n' := fun h => hnewline (h ▸ List.mem_cons_self)
      have hr : c ≠ '\r' := by
        rintro rfl
        exact absurd (hcode '\r' List.mem_cons_self) (by decide)
      simp [hn, hr]

end DacBank.Document.Toml
