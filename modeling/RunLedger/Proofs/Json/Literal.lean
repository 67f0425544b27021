import RunLedger.Json.Printer
import RunLedger.Json.Token

/-!
# Literals of JSON

Numbers and strings are read back from what is written of them, whatever stands behind them (`readToken_string`,
`readToken_number`). A string literal needs nothing for this: every character is escaped so that it reads as itself, and
the escaped lone surrogate of what is no text reads as no text again. A number has to be one that JSON knows
(`Number.WellFormed`), and what comes next must not go on with it (`Ends`).

No character of a literal is below the space, so none is a newline.
-/

namespace RunLedger.Json

open Text.Decimal (IsDigit AllDigits)

/-- A text that does not go on with anything that belongs to a number. -/
def Ends (rest : List Char) : Prop := ∀ c ∈ rest.head?, isDigit c = false ∧ c ≠ '.' ∧ c ≠ 'e' ∧ c ≠ 'E'

theorem ends_nil : Ends [] := by
  intro c hc
  cases hc

/-- A character that is no control character. -/
def Plain (c : Char) : Prop := 32 ≤ c.toNat

instance : DecidablePred Plain := fun c => inferInstanceAs (Decidable (32 ≤ c.toNat))

/-! ## Numbers -/

theorem isDigit_eq_true_iff {c : Char} : isDigit c = true ↔ IsDigit c := decide_eq_true_iff

theorem plain_of_isDigit {c : Char} (h : IsDigit c) : Plain c := Nat.le_trans (by decide) h.1

namespace Number

/-- A number as JSON has it: there are digits, the first one is no zero unless it is the only one in front of the point,
and an exponent has digits, too. -/
structure WellFormed (n : Number) : Prop where
  whole : AllDigits n.whole
  leading : n.whole.head? = some '0' → n.whole = ['0']
  fraction : ∀ c ∈ n.fraction, IsDigit c
  exponent : ∀ down digits, n.exponent = some (down, digits) → AllDigits digits

/-- What is written of the digits behind the point. -/
def fractionPart (n : Number) : List Char := if n.fraction.isEmpty then [] else '.' :: n.fraction

/-- What is written of the exponent. -/
def exponentPart (n : Number) : List Char := n.exponent.elim [] fun e => 'e' :: (if e.1 then '-' else '+') :: e.2

/-- What is written behind the sign. -/
def unsigned (n : Number) : List Char := n.whole ++ (n.fractionPart ++ n.exponentPart)

variable {n : Number} {rest : List Char}

theorem text_eq (n : Number) : n.text = (if n.negative then ['-'] else []) ++ n.unsigned := by
  obtain ⟨negative, whole, fraction, exponent⟩ := n
  cases exponent with
  | none => simp only [text, unsigned, fractionPart, exponentPart, List.append_assoc, Option.elim_none]
  | some e => simp only [text, unsigned, fractionPart, exponentPart, List.append_assoc, Option.elim_some]

theorem exponentPart_of_none (h : n.exponent = none) : n.exponentPart = [] := by
  rw [exponentPart, h, Option.elim_none]

theorem exponentPart_of_some {down : Bool} {digits : List Char} (h : n.exponent = some (down, digits)) :
    n.exponentPart = 'e' :: (if down then '-' else '+') :: digits := by
  rw [exponentPart, h, Option.elim_some]

theorem wellFormed_of_none {negative : Bool} {whole fraction : List Char} (hw : AllDigits whole)
    (hl : whole.head? = some '0' → whole = ['0']) (hf : ∀ c ∈ fraction, IsDigit c) :
    WellFormed ⟨negative, whole, fraction, none⟩ := by
  refine ⟨hw, hl, hf, ?_⟩
  intro down digits he
  cases he

/-- A number starts with a digit behind its sign. -/
theorem WellFormed.exists_digit (h : n.WellFormed) : ∃ c more, n.unsigned = c :: more ∧ IsDigit c := by
  cases hw : n.whole with
  | nil => exact absurd hw h.whole.1
  | cons c more => exact ⟨c, more ++ (n.fractionPart ++ n.exponentPart), by rw [unsigned, hw]; rfl,
      h.whole.2 c (by simp [hw])⟩

theorem WellFormed.plain (h : n.WellFormed) : ∀ c ∈ n.text, Plain c := by
  intro c hc
  rw [text_eq, unsigned] at hc
  rcases List.mem_append.mp hc with hc | hc
  · split at hc
    · rw [List.mem_singleton.mp hc]
      decide
    · cases hc
  rcases List.mem_append.mp hc with hc | hc
  · exact plain_of_isDigit (h.whole.2 c hc)
  rcases List.mem_append.mp hc with hc | hc
  · rw [fractionPart] at hc
    split at hc
    · cases hc
    · rcases List.mem_cons.mp hc with rfl | hc
      · decide
      · exact plain_of_isDigit (h.fraction c hc)
  · cases he : n.exponent with
    | none =>
      rw [exponentPart_of_none he] at hc
      cases hc
    | some e =>
      obtain ⟨down, digits⟩ := e
      rw [exponentPart_of_some he] at hc
      rcases List.mem_cons.mp hc with rfl | hc
      · decide
      rcases List.mem_cons.mp hc with rfl | hc
      · cases down <;> decide
      · exact plain_of_isDigit ((h.exponent down digits he).2 c hc)

end Number

/-! ### Reading them -/

variable {rest : List Char}

theorem span_append {p : Char → Bool} {front : List Char} (h : ∀ c ∈ front, p c = true)
    (hr : ∀ c ∈ rest.head?, p c = false) :
    (front ++ rest).takeWhile p = front ∧ (front ++ rest).dropWhile p = rest := by
  have hrest : rest.takeWhile p = [] ∧ rest.dropWhile p = rest := by
    cases rest with
    | nil => exact ⟨rfl, rfl⟩
    | cons c rest =>
      have hc : p c = false := hr c rfl
      simp [hc]
  rw [List.takeWhile_append_of_pos h, List.dropWhile_append_of_pos h, hrest.1, hrest.2, List.append_nil]
  exact ⟨rfl, rfl⟩

theorem readDigits_append {ds : List Char} (h : AllDigits ds) (hr : ∀ c ∈ rest.head?, isDigit c = false) :
    readDigits (ds ++ rest) = some (ds, rest) := by
  obtain ⟨htake, hdrop⟩ := span_append (fun c hc => isDigit_eq_true_iff.mpr (h.2 c hc)) hr
  rw [readDigits, htake, hdrop]
  split
  · exact absurd rfl h.1
  · rfl

theorem readWhole_append {ds : List Char} (h : AllDigits ds) (hl : ds.head? = some '0' → ds = ['0'])
    (hr : ∀ c ∈ rest.head?, isDigit c = false) : readWhole (ds ++ rest) = some (ds, rest) := by
  by_cases hz : ds.head? = some '0'
  · rw [hl hz]
    rfl
  · rw [← readDigits_append h hr]
    cases ds with
    | nil => exact absurd rfl h.1
    | cons c ds =>
      rw [List.cons_append, readWhole]
      rintro more he
      cases he
      exact hz rfl

theorem readFraction_append {n : Number} (h : n.WellFormed)
    (hr : ∀ c ∈ rest.head?, isDigit c = false ∧ c ≠ '.') :
    readFraction (n.fractionPart ++ rest) = some (n.fraction, rest) := by
  by_cases hf : n.fraction = []
  · rw [Number.fractionPart, hf]
    show readFraction rest = some ([], rest)
    rw [readFraction]
    rintro more rfl
    exact (hr '.' rfl).2 rfl
  · have hne : n.fraction.isEmpty = false := by simp [hf]
    rw [Number.fractionPart, hne]
    exact readDigits_append ⟨hf, h.fraction⟩ fun c hc => (hr c hc).1

theorem readExponent_append {n : Number} (h : n.WellFormed) (hr : Ends rest) :
    readExponent (n.exponentPart ++ rest) = some (n.exponent, rest) := by
  cases he : n.exponent with
  | none =>
    rw [Number.exponentPart_of_none he]
    show readExponent rest = some (none, rest)
    rw [readExponent]
    · rintro more rfl
      exact (hr 'e' rfl).2.2.1 rfl
    · rintro more rfl
      exact (hr 'E' rfl).2.2.2 rfl
  | some e =>
    obtain ⟨down, digits⟩ := e
    have hdigits := readDigits_append (h.exponent down digits he) fun c hc => (hr c hc).1
    rw [Number.exponentPart_of_some he]
    cases down with
    | false =>
      show (readSigned ('+' :: (digits ++ rest))).map _ = _
      simp only [readSigned, hdigits, Option.map_some]
    | true =>
      show (readSigned ('-' :: (digits ++ rest))).map _ = _
      simp only [readSigned, hdigits, Option.map_some]

/-- What comes behind the whole digits of a number is no digit. -/
theorem notDigit_behind (n : Number) (hr : Ends rest) :
    (∀ c ∈ (n.exponentPart ++ rest).head?, isDigit c = false ∧ c ≠ '.') ∧
      ∀ c ∈ (n.fractionPart ++ (n.exponentPart ++ rest)).head?, isDigit c = false := by
  have hexponent : ∀ c ∈ (n.exponentPart ++ rest).head?, isDigit c = false ∧ c ≠ '.' := by
    intro c hc
    cases he : n.exponent with
    | none =>
      rw [Number.exponentPart_of_none he] at hc
      exact ⟨(hr c hc).1, (hr c hc).2.1⟩
    | some e =>
      obtain ⟨down, digits⟩ := e
      rw [Number.exponentPart_of_some he] at hc
      cases hc
      decide
  refine ⟨hexponent, ?_⟩
  intro c hc
  rw [Number.fractionPart] at hc
  split at hc
  · exact (hexponent c hc).1
  · cases hc
    decide

/-- **A number is read back behind its sign.** -/
theorem readUnsigned_append {n : Number} (h : n.WellFormed) (hr : Ends rest) :
    readUnsigned n.negative (n.unsigned ++ rest) = some (.number n, rest) := by
  obtain ⟨hexponent, hfraction⟩ := notDigit_behind n hr
  have hwhole := readWhole_append h.whole h.leading hfraction
  have hfraction := readFraction_append h hexponent
  have hexponent := readExponent_append h hr
  simp only [readUnsigned, Number.unsigned, List.append_assoc, hwhole, hfraction, hexponent, Option.bind_eq_bind,
    Option.bind_some]

/-- Digits are no punctuation, quotes or signs. -/
theorem readToken_digit {c : Char} (h : IsDigit c) (more : List Char) :
    isSpace c = false ∧ readToken c more = readUnsigned false (c :: more) := by
  have hne : ∀ c' : Char, ¬IsDigit c' → c ≠ c' := by
    rintro c' hc' rfl
    exact hc' h
  have hp : punctuation? c = none := by
    unfold punctuation?
    split
    all_goals first | rfl | exact absurd h (by decide)
  constructor
  · simp [isSpace, hne ' ' (by decide), hne '\n' (by decide), hne '\t' (by decide), hne '\r' (by decide)]
  · simp only [readToken, hp]
    rw [if_neg (hne '"' (by decide)), if_neg (hne '-' (by decide)), if_pos (isDigit_eq_true_iff.mpr h)]

/-- **A number is read back.** -/
theorem readToken_number {n : Number} (h : n.WellFormed) (hr : Ends rest) :
    ∃ c more, n.text ++ rest = c :: more ∧ isSpace c = false ∧ readToken c more = some (.number n, rest) := by
  have hread := readUnsigned_append h hr
  rw [Number.text_eq]
  cases hn : n.negative with
  | true =>
    rw [hn] at hread
    exact ⟨'-', n.unsigned ++ rest, rfl, rfl, hread⟩
  | false =>
    obtain ⟨c, more, hc, hdigit⟩ := h.exists_digit
    rw [hn, hc] at hread
    obtain ⟨hspace, htoken⟩ := readToken_digit hdigit (more ++ rest)
    refine ⟨c, more ++ rest, ?_, hspace, ?_⟩
    · rw [hc]
      rfl
    · rw [htoken]
      exact hread

/-! ## Strings -/

theorem hexDigit_spec : ∀ n < 16, hexValue? (hexDigit n) = some n ∧ Plain (hexDigit n) := by decide

/-- A character that is no quote, backslash or control character stands for itself. -/
theorem readUnits_plain {c : Char} (hquote : c ≠ '"') (hback : c ≠ '\\') (hc : Plain c) (read : List Unit16)
    (rest : List Char) : readUnits read (c :: rest) = readUnits (.character c :: read) rest := by
  rw [readUnits]
  · exact if_neg (Nat.not_lt.mpr hc)
  · exact hquote
  · rintro _ _ _ _ _ rfl
    exact absurd rfl hback
  · rintro _ _ rfl
    exact absurd rfl hback

/-- The four digits of a control character are read as it. -/
theorem readUnits_code {c : Char} (hc : c.toNat < 32) (read : List Unit16) (rest : List Char) :
    readUnits read ('\\' :: 'u' :: '0' :: '0' :: hexDigit (c.toNat / 16) :: hexDigit (c.toNat % 16) :: rest) =
      readUnits (.character c :: read) rest := by
  have hhigh := (hexDigit_spec (c.toNat / 16) (by omega)).1
  have hlow := (hexDigit_spec (c.toNat % 16) (by omega)).1
  have hzero : hexValue? '0' = some 0 := by decide
  have hcode : code? '0' '0' (hexDigit (c.toNat / 16)) (hexDigit (c.toNat % 16)) = some c.toNat := by
    simp only [code?, hzero, hhigh, hlow, Option.bind_eq_bind, Option.bind_some, Option.some.injEq]
    omega
  rw [readUnits, hcode]
  simp only [Unit16.ofCode]
  rw [if_neg (by omega), Char.ofNat_toNat]

/-- A letter behind the backslash is read as what it stands for. -/
theorem readUnits_letter {e c : Char} (h : shortEscape? e = some c) (read : List Unit16) (rest : List Char) :
    readUnits read ('\\' :: e :: rest) = readUnits (.character c :: read) rest := by
  rw [readUnits, h]
  rintro _ _ _ _ _ rfl
  cases h

theorem plain_of_shortEscape {e c : Char} (h : shortEscape? e = some c) : Plain e := by
  unfold shortEscape? at h
  split at h
  all_goals first | decide | cases h

/-- A character is written as it is, or as a letter behind a backslash, or with its number. -/
theorem escape_cases (c : Char) :
    (escape c = [c] ∧ c ≠ '"' ∧ c ≠ '\\' ∧ Plain c) ∨ (∃ e, escape c = ['\\', e] ∧ shortEscape? e = some c) ∨
      escape c = ['\\', 'u', '0', '0', hexDigit (c.toNat / 16), hexDigit (c.toNat % 16)] ∧ c.toNat < 32 := by
  have hnumber {n : Nat} (h : c.toNat = n) : c = Char.ofNat n := by rw [← h, Char.ofNat_toNat]
  unfold escape
  split
  · rename_i hc
    exact Or.inr (Or.inl ⟨'"', rfl, congrArg some hc.symm⟩)
  split
  · rename_i hc
    exact Or.inr (Or.inl ⟨'\\', rfl, congrArg some hc.symm⟩)
  split
  · rename_i hquote hback hc
    exact Or.inl ⟨rfl, hquote, hback, hc⟩
  split
  · rename_i hc
    exact Or.inr (Or.inl ⟨'b', rfl, congrArg some (hnumber hc).symm⟩)
  split
  · rename_i hc
    exact Or.inr (Or.inl ⟨'t', rfl, congrArg some hc.symm⟩)
  split
  · rename_i hc
    exact Or.inr (Or.inl ⟨'n', rfl, congrArg some hc.symm⟩)
  split
  · rename_i hc
    exact Or.inr (Or.inl ⟨'f', rfl, congrArg some (hnumber hc).symm⟩)
  split
  · rename_i hc
    exact Or.inr (Or.inl ⟨'r', rfl, congrArg some hc.symm⟩)
  · rename_i hc _ _ _ _ _
    exact Or.inr (Or.inr ⟨rfl, Nat.lt_of_not_le hc⟩)

/-- **What a character is escaped to reads as the character.** -/
theorem readUnits_escape (c : Char) (read : List Unit16) (rest : List Char) :
    readUnits read (escape c ++ rest) = readUnits (.character c :: read) rest := by
  obtain ⟨he, hquote, hback, hc⟩ | ⟨e, he, hc⟩ | ⟨he, hc⟩ := escape_cases c
  · rw [he]
    exact readUnits_plain hquote hback hc read rest
  · rw [he]
    exact readUnits_letter hc read rest
  · rw [he]
    exact readUnits_code hc read rest

theorem plain_of_mem_escape {c x : Char} (h : x ∈ escape c) : Plain x := by
  obtain ⟨he, -, -, hc⟩ | ⟨e, he, hc⟩ | ⟨he, hc⟩ := escape_cases c
  · rw [he] at h
    rw [List.mem_singleton.mp h]
    exact hc
  · rw [he] at h
    rcases List.mem_cons.mp h with rfl | h
    · decide
    · rw [List.mem_singleton.mp h]
      exact plain_of_shortEscape hc
  · have hfront : ∀ y ∈ ['\\', 'u', '0', '0'], Plain y := by simp [Plain]
    rw [he] at h
    rcases List.mem_append (s := ['\\', 'u', '0', '0']).mp h with h | h
    · exact hfront x h
    · rcases List.mem_cons.mp h with rfl | h
      · exact (hexDigit_spec _ (by omega)).2
      · rw [List.mem_singleton.mp h]
        exact (hexDigit_spec _ (by omega)).2

theorem readUnits_flatMap_escape (cs : List Char) (read : List Unit16) (rest : List Char) :
    readUnits read (cs.flatMap escape ++ '"' :: rest) = some (read.reverse ++ cs.map .character, rest) := by
  induction cs generalizing read with
  | nil =>
    rw [List.map_nil, List.append_nil]
    rfl
  | cons c cs ih =>
    rw [List.flatMap_cons, List.append_assoc, readUnits_escape, ih, List.reverse_cons, List.append_assoc]
    rfl

theorem joinUnits_map_character (cs read : List Char) :
    joinUnits read (cs.map .character) = some (read.reverse ++ cs) := by
  induction cs generalizing read with
  | nil =>
    rw [List.append_nil]
    rfl
  | cons c cs ih =>
    rw [List.map_cons, joinUnits, ih, List.reverse_cons, List.append_assoc]
    rfl

/-- **A string is read back,** and so is what is no text. -/
theorem readToken_string (s : Option String) (rest : List Char) :
    ∃ more, literal s ++ rest = '"' :: more ∧ readToken '"' more = some (.string s, rest) := by
  cases s with
  | none => exact ⟨_, rfl, rfl⟩
  | some s =>
    refine ⟨s.toList.flatMap escape ++ '"' :: rest, ?_, ?_⟩
    · simp only [literal, List.cons_append, List.append_assoc, List.nil_append]
    · show (readUnits [] (s.toList.flatMap escape ++ '"' :: rest)).map _ = _
      rw [readUnits_flatMap_escape]
      simp only [Option.map_some, List.reverse_nil, List.nil_append, joinUnits_map_character, String.ofList_toList]

theorem plain_of_mem_literal {s : Option String} {c : Char} (h : c ∈ literal s) : Plain c := by
  cases s with
  | none =>
    have hall : ∀ c ∈ literal none, Plain c := by simp [literal, Plain]
    exact hall c h
  | some s =>
    rw [literal] at h
    rcases List.mem_append.mp h with h | h
    · rcases List.mem_cons.mp h with rfl | h
      · decide
      · obtain ⟨c', -, hc'⟩ := List.mem_flatMap.mp h
        exact plain_of_mem_escape hc'
    · rw [List.mem_singleton.mp h]
      decide

end RunLedger.Json
