import RunLedger.Json.Basic

/-!
# JSON tokens

`tokens?` cuts a text into punctuation, words, numbers and strings, with blanks between them dropped. In a string an
escaped surrogate counts as a character only together with its partner.
-/

namespace RunLedger.Json

/-- A token of a JSON text. -/
inductive Token where
  | leftBracket
  | rightBracket
  | leftBrace
  | rightBrace
  | comma
  | colon
  | null
  | bool (b : Bool)
  | number (n : Number)
  | string (s : Option String)
  deriving DecidableEq, Repr

/-- What a string literal holds at one place: a character, or one half of a surrogate pair. -/
inductive Unit16 where
  | character (c : Char)
  | surrogate (code : Nat)
  deriving DecidableEq, Repr

/-- The value of a hexadecimal digit. -/
def hexValue? (c : Char) : Option Nat :=
  let n := c.toNat
  if 48 ≤ n ∧ n ≤ 57 then some (n - 48)
  else if 97 ≤ n ∧ n ≤ 102 then some (n - 87)
  else if 65 ≤ n ∧ n ≤ 70 then some (n - 55)
  else none

/-- The number that four hexadecimal digits write. -/
def code? (a b c d : Char) : Option Nat := do
  let a ← hexValue? a
  let b ← hexValue? b
  let c ← hexValue? c
  let d ← hexValue? d
  some (((a * 16 + b) * 16 + c) * 16 + d)

/-- The place that a code number stands for. -/
def Unit16.ofCode (n : Nat) : Unit16 :=
  if 0xD800 ≤ n ∧ n ≤ 0xDFFF then .surrogate n else .character (Char.ofNat n)

/-- The character that a one-letter escape stands for. -/
def shortEscape? (c : Char) : Option Char :=
  match c with
  | '"' => some '"'
  | '\\' => some '\\'
  | '/' => some '/'
  | 'b' => some (Char.ofNat 8)
  | 'f' => some (Char.ofNat 12)
  | 'n' => some '\n'
  | 'r' => some '\r'
  | 't' => some '\t'
  | _ => none

/-- The places of a string literal after those read so far (latest first), up to its closing quote, and what follows. -/
def readUnits (read : List Unit16) : List Char → Option (List Unit16 × List Char)
  | [] => none
  | '"' :: rest => some (read.reverse, rest)
  | '\\' :: 'u' :: a :: b :: c :: d :: rest =>
    match code? a b c d with
    | some n => readUnits (.ofCode n :: read) rest
    | none => none
  | '\\' :: c :: rest =>
    match shortEscape? c with
    | some e => readUnits (.character e :: read) rest
    | none => none
  | c :: rest => if c.toNat < 32 then none else readUnits (.character c :: read) rest

/-- The characters of the places after those read so far, if every surrogate has its partner. -/
def joinUnits (read : List Char) : List Unit16 → Option (List Char)
  | [] => some read.reverse
  | .character c :: rest => joinUnits (c :: read) rest
  | .surrogate high :: .surrogate low :: rest =>
    if high < 0xDC00 ∧ 0xDC00 ≤ low then
      joinUnits (Char.ofNat (0x10000 + (high - 0xD800) * 1024 + (low - 0xDC00)) :: read) rest
    else none
  | .surrogate _ :: _ => none

/-- Whether a character is a digit. -/
def isDigit (c : Char) : Bool := decide (Text.Decimal.IsDigit c)

/-- The digits at the front, at least one, and what follows. -/
def readDigits (cs : List Char) : Option (List Char × List Char) :=
  match cs.takeWhile isDigit with
  | [] => none
  | ds => some (ds, cs.dropWhile isDigit)

/-- The digits before the point: a zero alone, or digits that do not start with one. -/
def readWhole : List Char → Option (List Char × List Char)
  | '0' :: rest => some (['0'], rest)
  | cs => readDigits cs

/-- The digits after a point, if there is one. -/
def readFraction : List Char → Option (List Char × List Char)
  | '.' :: rest => readDigits rest
  | cs => some ([], cs)

/-- The sign and digits of an exponent, after its letter. -/
def readSigned : List Char → Option ((Bool × List Char) × List Char)
  | '-' :: rest => (readDigits rest).map fun (ds, rest) => ((true, ds), rest)
  | '+' :: rest => (readDigits rest).map fun (ds, rest) => ((false, ds), rest)
  | cs => (readDigits cs).map fun (ds, rest) => ((false, ds), rest)

/-- The exponent, if there is one. -/
def readExponent : List Char → Option (Option (Bool × List Char) × List Char)
  | 'e' :: rest => (readSigned rest).map fun (e, rest) => (some e, rest)
  | 'E' :: rest => (readSigned rest).map fun (e, rest) => (some e, rest)
  | cs => some (none, cs)

/-- The number at the front, its sign taken off already, and what follows. -/
def readUnsigned (negative : Bool) (cs : List Char) : Option (Token × List Char) := do
  let (whole, cs) ← readWhole cs
  let (fraction, cs) ← readFraction cs
  let (exponent, cs) ← readExponent cs
  some (.number ⟨negative, whole, fraction, exponent⟩, cs)

/-- Whether a character may stand between tokens. -/
def isSpace (c : Char) : Bool := c = ' ' || c = '\n' || c = '\t' || c = '\r'

/-- The token that a punctuation mark is. -/
def punctuation? (c : Char) : Option Token :=
  match c with
  | '[' => some .leftBracket
  | ']' => some .rightBracket
  | '{' => some .leftBrace
  | '}' => some .rightBrace
  | ',' => some .comma
  | ':' => some .colon
  | _ => none

/-- The word at the front, and what follows. -/
def readWord : List Char → Option (Token × List Char)
  | 'n' :: 'u' :: 'l' :: 'l' :: rest => some (.null, rest)
  | 't' :: 'r' :: 'u' :: 'e' :: rest => some (.bool true, rest)
  | 'f' :: 'a' :: 'l' :: 's' :: 'e' :: rest => some (.bool false, rest)
  | _ => none

/-- The token that starts with character `c`, and what follows it. -/
def readToken (c : Char) (rest : List Char) : Option (Token × List Char) :=
  match punctuation? c with
  | some t => some (t, rest)
  | none =>
    if c = '"' then
      (readUnits [] rest).map fun (units, rest) => (.string ((joinUnits [] units).map String.ofList), rest)
    else if c = '-' then readUnsigned true rest
    else if isDigit c then readUnsigned false (c :: rest)
    else readWord (c :: rest)

theorem readUnits_length {read units : List Unit16} {cs rest : List Char} (h : readUnits read cs = some (units, rest)) :
    rest.length < cs.length := by
  fun_induction readUnits read cs with
  | case1 => cases h
  | case2 => cases h; simp
  | case3 _ _ _ _ _ _ _ _ ih => have := ih h; simp only [List.length_cons]; omega
  | case4 => cases h
  | case5 _ _ _ _ _ _ ih => have := ih h; simp only [List.length_cons]; omega
  | case6 => cases h
  | case7 => cases h
  | case8 _ _ _ _ _ _ hc ih => have := ih h; simp only [List.length_cons]; omega

theorem readDigits_length {cs ds rest : List Char} (h : readDigits cs = some (ds, rest)) :
    rest.length + ds.length = cs.length ∧ ds ≠ [] := by
  unfold readDigits at h
  split at h
  · cases h
  · rename_i hne
    cases h
    have := congrArg List.length (List.takeWhile_append_dropWhile (p := isDigit) (l := cs))
    simp only [List.length_append] at this
    exact ⟨by omega, by rintro he; exact hne he⟩

theorem readWhole_length {cs ds rest : List Char} (h : readWhole cs = some (ds, rest)) : rest.length < cs.length := by
  unfold readWhole at h
  split at h
  · cases h; simp
  · have := readDigits_length h
    have := List.length_pos_iff.mpr this.2
    omega

theorem readFraction_length {cs ds rest : List Char} (h : readFraction cs = some (ds, rest)) :
    rest.length ≤ cs.length := by
  unfold readFraction at h
  split at h
  · have := (readDigits_length h).1; simp only [List.length_cons]; omega
  · cases h; exact Nat.le_refl _

theorem readSigned_length {cs rest : List Char} {e : Bool × List Char} (h : readSigned cs = some (e, rest)) :
    rest.length ≤ cs.length := by
  unfold readSigned at h
  split at h <;>
  · obtain ⟨⟨ds, r⟩, hd, he⟩ := Option.map_eq_some_iff.mp h
    cases he
    have := (readDigits_length hd).1
    simp only [List.length_cons] at *
    omega

theorem readExponent_length {cs rest : List Char} {e : Option (Bool × List Char)}
    (h : readExponent cs = some (e, rest)) : rest.length ≤ cs.length := by
  unfold readExponent at h
  split at h
  · obtain ⟨⟨ds, r⟩, hd, he⟩ := Option.map_eq_some_iff.mp h
    cases he
    exact Nat.le_succ_of_le (readSigned_length hd)
  · obtain ⟨⟨ds, r⟩, hd, he⟩ := Option.map_eq_some_iff.mp h
    cases he
    exact Nat.le_succ_of_le (readSigned_length hd)
  · cases h; exact Nat.le_refl _

theorem readUnsigned_length {negative : Bool} {cs rest : List Char} {t : Token}
    (h : readUnsigned negative cs = some (t, rest)) : rest.length < cs.length := by
  simp only [readUnsigned, Option.bind_eq_bind, Option.bind_eq_some_iff] at h
  obtain ⟨⟨w, c1⟩, hw, ⟨f, c2⟩, hf, ⟨e, c3⟩, he, hr⟩ := h
  cases hr
  have hw := readWhole_length hw
  have hf := readFraction_length hf
  have he := readExponent_length he
  exact Nat.lt_of_le_of_lt (Nat.le_trans he hf) hw

theorem readWord_length {cs rest : List Char} {t : Token} (h : readWord cs = some (t, rest)) :
    rest.length < cs.length := by
  unfold readWord at h
  split at h <;> cases h <;> simp only [List.length_cons] <;> omega

/-- A token takes at least its first character. -/
theorem readToken_length {c : Char} {cs rest : List Char} {t : Token} (h : readToken c cs = some (t, rest)) :
    rest.length ≤ cs.length := by
  unfold readToken at h
  split at h
  · cases h; exact Nat.le_refl _
  split at h
  · obtain ⟨⟨u, r⟩, hu, he⟩ := Option.map_eq_some_iff.mp h
    cases he
    exact Nat.le_of_lt (readUnits_length hu)
  split at h
  · exact Nat.le_of_lt (readUnsigned_length h)
  split at h
  · exact Nat.le_of_lt_succ (readUnsigned_length h)
  · exact Nat.le_of_lt_succ (readWord_length h)

/-- The tokens after those read so far (latest first). -/
def tokensOnto (read : List Token) (cs : List Char) : Option (List Token) :=
  match cs with
  | [] => some read.reverse
  | c :: rest =>
    if isSpace c then tokensOnto read rest
    else
      match h : readToken c rest with
      | none => none
      | some (t, rest') =>
        have := readToken_length h
        tokensOnto (t :: read) rest'
termination_by cs.length
decreasing_by
  · simp
  · simp only [List.length_cons]; omega

/-- The tokens of a text. -/
def tokens? (s : String) : Option (List Token) := tokensOnto [] s.toList

end RunLedger.Json
