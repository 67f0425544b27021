import RunLedger.Sandbox.Arithmetic
import RunLedger.Sandbox.Measure

/-!
# Formatted output

What `echo` and `printf` write: texts with escapes behind backslashes, and formats with fields to fill in. A format is
used again as long as arguments are left. The shell and the programs of these names differ in their escapes, and in what
they say of arguments that make no sense: they have a `Dialect` each.

* `unescaped_plain`: a text without backslashes is written as it is.
-/

namespace RunLedger.Sandbox

/-- How `printf` is understood. -/
structure Dialect where
  /-- Whether this is the program, and not the shell. -/
  isProgram : Bool
  /-- How many binary digits numbers with a fraction have. -/
  bits : Nat

namespace Dialect

/-- As the shell does it. -/
def shell : Dialect := ⟨false, 53⟩

/-- As the program does it. -/
def program : Dialect := ⟨true, 64⟩

end Dialect

namespace Format

/-! ## Escapes -/

/-- The character of digits in a base, at most so many, and what follows them. -/
def numbered (base most : Nat) (cs : List Char) : Char × List Char :=
  let (ds, _) := Pause.digitsIn base (cs.take most)
  (Char.ofNat (Pause.valueIn base ds % 256), cs.drop ds.length)

/-- The character of a letter behind a backslash. -/
def letter? : Char → Option Char
  | 'a' => some '\x07'
  | 'b' => some '\x08'
  | 'e' => some '\x1b'
  | 'f' => some '\x0c'
  | 'n' => some '\n'
  | 'r' => some '\r'
  | 't' => some '\t'
  | 'v' => some '\x0b'
  | '\\' => some '\\'
  | _ => none

/-- What stands behind a backslash. -/
inductive Escape where
  | char (c : Char)
  /-- Stands for itself, with the backslash. -/
  | text (s : String)
  | stop
  /-- Makes no sense. -/
  | senseless

/-- Which escapes are known besides the letters. -/
structure Escapes where
  /-- Whether octal digits may follow the backslash at once, and whether a zero in front of them is left out. -/
  isFree : Bool
  dropsZero : Bool
  hasHex : Bool
  hasQuote : Bool
  stops : Bool

/-- Reads an escape behind its backslash. -/
def escape (k : Escapes) : List Char → Escape × List Char
  | [] => (.text "\\", [])
  | c :: cs =>
    match letter? c with
    | some d => (.char d, cs)
    | none =>
      let octal := fun (cs : List Char) =>
        let (d, rest) := numbered 8 3 cs
        (Escape.char d, rest)
      if c = 'c' && k.stops then (.stop, cs)
      else if c = '"' && k.hasQuote then (.char '"', cs)
      else if c = '0' && k.dropsZero then octal cs
      else if '0' ≤ c && c ≤ '7' && k.isFree then octal (c :: cs)
      else if c = 'x' && k.hasHex then
        match Pause.digitsIn 16 (cs.take 2) with
        | ([], _) => (.senseless, cs)
        | _ =>
          let (d, rest) := numbered 16 2 cs
          (.char d, rest)
      else (.text (String.ofList ['\\', c]), cs)

/-- Writes a text with escapes behind what was written. Answers whether it was stopped. -/
def unescapedOnto (k : Escapes) : Nat → String → List Char → String × Bool
  | 0, written, _ => (written, false)
  | _, written, [] => (written, false)
  | n + 1, written, '\\' :: cs =>
    match escape k cs with
    | (.char c, rest) => unescapedOnto k n (written.push c) rest
    | (.text s, rest) => unescapedOnto k n (written ++ s) rest
    | (.senseless, rest) => unescapedOnto k n (written ++ "\\x") rest
    | (.stop, _) => (written, true)
  | n + 1, written, c :: cs => unescapedOnto k n (written.push c) cs

/-- A text with its escapes worked out, and whether it was stopped. -/
def unescaped (k : Escapes) (s : String) : String × Bool :=
  if s.toList.contains '\\' then unescapedOnto k (s.length + 1) "" s.toList else (s, false)

/-- The escapes of `echo` in the shell, and of its texts in formats. -/
def shellEscapes : Escapes := ⟨true, true, false, false, true⟩

/-- The escapes of the program `echo`. -/
def programEscapes : Escapes := ⟨true, true, true, false, true⟩

/-- What `echo` writes in the shell. -/
def echo (words : List String) : String :=
  let (line, words) := match words with
    | "-n" :: rest => ("", rest)
    | words => ("\n", words)
  let (text, isStopped) := unescaped shellEscapes (" ".intercalate words)
  if isStopped then text else text ++ line

/-! ## Fields -/

/-- How a field is filled in. -/
structure Field where
  flags : List Char
  width : Nat
  precision : Option Nat

/-- A text in a field. -/
def Field.padded (f : Field) (s : String) : String :=
  let blanks := String.ofList (List.replicate (f.width - s.length) ' ')
  if f.flags.contains '-' then s ++ blanks else blanks ++ s

/-- Digits with the sign in front of them, in a field, with zeros if these are asked for and make sense. -/
def Field.signed (f : Field) (takesZeros : Bool) (sign digits : String) : String :=
  let zeros :=
    if f.flags.contains '0' && !f.flags.contains '-' && takesZeros then
      String.ofList (List.replicate (f.width - sign.length - digits.length) '0')
    else ""
  f.padded (sign ++ zeros ++ digits)

/-- The digits of a whole number in a field. -/
def Field.whole (f : Field) (sign digits : String) : String :=
  let digits := if f.precision = some 0 && digits = "0" then "" else digits
  f.signed f.precision.isNone sign (String.ofList (List.replicate (f.precision.getD 1 - digits.length) '0') ++ digits)

/-- The sign of a number in a field. -/
def Field.sign (f : Field) (isNegative : Bool) : String :=
  if isNegative then "-" else if f.flags.contains '+' then "+" else if f.flags.contains ' ' then " " else ""

/-- The digits of a number in a base. -/
def digitsOf (base n : Nat) : String := String.ofList (Nat.toDigits base n)

/-! ## Numbers -/

/-- What is wrong with an argument that should be a number, in the words of a dialect. -/
inductive Flaw where
  | none
  | noNumber
  | incomplete
  | range
  /-- More characters follow the one that is meant. -/
  | excess (rest : String)

/-- A flaw of an argument in words. -/
def Flaw.text? (d : Dialect) (s : String) : Flaw → Option String
  | .none => Option.none
  | .noNumber => some (if d.isProgram then "'" ++ s ++ "': expected a numeric value" else s ++ ": expected numeric value")
  | .incomplete =>
    some (if d.isProgram then "'" ++ s ++ "': value not completely converted" else s ++ ": not completely converted")
  | .range => some ((if d.isProgram then "'" ++ s ++ "'" else s) ++ ": Numerical result out of range")
  | .excess rest =>
    if d.isProgram then
      some ("warning: " ++ rest ++ ": character(s) following character constant have been ignored")
    else Option.none

/-- Whether a flaw counts as a failure. -/
def Flaw.isFailure : Flaw → Bool
  | .none | .excess _ => false
  | _ => true

/-- The flaw of a number in front of a text, given what follows it. -/
def flawOf (isFound : Bool) (rest : List Char) (isTooLarge : Bool) : Flaw :=
  if !rest.isEmpty then if isFound then .incomplete else .noNumber
  else if isTooLarge then .range
  else .none

/-- The whole number that an argument writes, as a word of 64 bits with or without a sign. -/
def wholeOf (isSigned : Bool) (s : String) : Int × Flaw :=
  let quoted := fun (c : Char) (rest : List Char) =>
    (Int.ofNat c.toNat, if rest.isEmpty then Flaw.none else .excess (String.ofList rest))
  match s.toList with
  | '\'' :: c :: rest => quoted c rest
  | '"' :: c :: rest => quoted c rest
  | cs =>
    let front := cs.dropWhile Arithmetic.isBlank
    let (isNegative, digits) := match front with
      | '-' :: ds => (true, ds)
      | '+' :: ds => (false, ds)
      | ds => (false, ds)
    match Arithmetic.numberAt digits with
    | none => (0, flawOf false cs false)
    | some (n, rest) =>
      let value := if isNegative then -Int.ofNat n else Int.ofNat n
      if isSigned then
        let most : Int := 9223372036854775807
        (max (-most - 1) (min most value), flawOf true rest (value < -most - 1 || most < value))
      else
        let most : Int := 18446744073709551615
        (if most < Int.ofNat n then most else value % (most + 1), flawOf true rest (most < Int.ofNat n))

/-- The number with a fraction that an argument writes. -/
def measureOf (bits : Nat) (s : String) : Measure × Flaw :=
  match s.toList with
  | '\'' :: c :: _ => (Measure.ofQuotient bits false c.toNat 1, .none)
  | '"' :: c :: _ => (Measure.ofQuotient bits false c.toNat 1, .none)
  | cs =>
    match Measure.read? bits s with
    | some (v, rest) =>
      let isTooLarge := v.size.isNone && v.isNumber && cs.any Char.isDigit
      (v, flawOf true rest isTooLarge)
    | none => (Measure.zero, flawOf false cs false)

/-! ## Formats -/

/-- How far a format was written. -/
structure Progress where
  written : String
  arguments : List String
  /-- What is complained about, each with the number of characters written before, the latest first. -/
  complaints : List (Nat × String)
  status : Nat
  /-- Whether nothing more is to be written. -/
  isStopped : Bool

/-- The progress after more was written. -/
def Progress.put (p : Progress) (s : String) : Progress := { p with written := p.written ++ s }

/-- The progress after a complaint. -/
def Progress.complain (p : Progress) (text : String) : Progress :=
  { p with complaints := (p.written.length, text) :: p.complaints }

/-- Takes an argument. -/
def Progress.take (p : Progress) : String × Progress :=
  match p.arguments with
  | a :: rest => (a, { p with arguments := rest })
  | [] => ("", p)

/-- The progress after a flaw of an argument. -/
def Progress.note (d : Dialect) (argument : String) (flaw : Flaw) (p : Progress) : Progress :=
  let p := (flaw.text? d argument).elim p p.complain
  { p with status := if flaw.isFailure then 1 else p.status }

/-- A text in quotes, if it needs them. -/
def quotedText (s : String) : String :=
  let isSafe := fun c : Char => c.isAlphanum || ['%', '+', ',', '-', '.', '/', ':', '@', '_'].contains c
  if !s.isEmpty && s.toList.all isSafe then s
  else if !s.toList.contains '\'' then "'" ++ s ++ "'"
  else if s.toList.all fun c => !(['"', '$', '\\', '!', Char.ofNat 96].contains c) then "\"" ++ s ++ "\""
  else "'" ++ s.replace "'" "'\\''" ++ "'"

/-- Fills in a field by its letter. Nothing if there are no such fields. -/
def fill? (d : Dialect) (p : Progress) (f : Field) (letter : Char) : Option Progress :=
  let (argument, rest) := p.take
  let cut := fun (s : String) => f.precision.elim s fun n => String.ofList (s.toList.take n)
  let whole := fun (isSigned : Bool) (show_ : Int → String) =>
    let (n, flaw) := wholeOf isSigned argument
    some ((rest.note d argument flaw).put (show_ n))
  let isFull := f.flags.contains '#'
  match letter with
  | 's' => some (rest.put (f.padded (cut argument)))
  | 'c' => some (rest.put (f.padded (String.ofList [(argument.toList.headD '\x00')])))
  | 'b' =>
    let (text, isStopped) := unescaped (if d.isProgram then programEscapes else shellEscapes) argument
    let text := if d.isProgram then text else f.padded (cut text)
    some { rest.put text with isStopped }
  | 'q' => if d.isProgram then some (rest.put (quotedText argument)) else none
  | 'd' | 'i' => whole true fun n => f.whole (f.sign (n < 0)) (digitsOf 10 n.natAbs)
  | 'u' => whole false fun n => f.whole "" (digitsOf 10 n.natAbs)
  | 'o' => whole false fun n => f.whole (if isFull && n ≠ 0 then "0" else "") (digitsOf 8 n.natAbs)
  | 'x' => whole false fun n => f.whole (if isFull && n ≠ 0 then "0x" else "") (digitsOf 16 n.natAbs)
  | 'X' => whole false fun n => f.whole (if isFull && n ≠ 0 then "0X" else "") (digitsOf 16 n.natAbs).toUpper
  | letter =>
    if ['e', 'E', 'f', 'F', 'g', 'G', 'a', 'A'].contains letter then
      let (v, flaw) := measureOf d.bits argument
      let digits := v.text letter d.bits f.precision isFull
      some ((rest.note d argument flaw).put (f.signed v.size.isSome (f.sign v.isNegative) digits))
    else none

/-- A number in a format, from its digits or from an argument, and what follows it. -/
def measured (d : Dialect) (p : Progress) (cs : List Char) : Option Int × Progress × List Char :=
  match cs with
  | '*' :: rest =>
    let (argument, p) := p.take
    let (n, flaw) := wholeOf true argument
    (some n, p.note d argument flaw, rest)
  | cs =>
    let digits := cs.takeWhile Char.isDigit
    (some (Int.ofNat (Text.Decimal.value digits)), p, cs.drop digits.length)

/-- The progress after a format that makes no sense. -/
def Progress.broken (d : Dialect) (p : Progress) (text : String) : Progress :=
  { p.complain text with status := if d.isProgram then 1 else 2, isStopped := true }

/-- The letters of sizes, which say nothing here. -/
def sizes : List Char := ['l', 'L', 'h', 'j', 't', 'z']

/-- Writes a format once. -/
def once (d : Dialect) : Nat → Progress → List Char → Progress
  | 0, p, _ => p
  | _, p, [] => p
  | n + 1, p, '%' :: '%' :: cs => once d n (p.put "%") cs
  | n + 1, p, '%' :: cs =>
    let flags := cs.takeWhile fun c => ['-', '+', ' ', '#', '0'].contains c || (d.isProgram && c = '\'')
    let (width, p, rest) := measured d p (cs.drop flags.length)
    let (precision, p, rest) := match rest with
      | '.' :: rest => measured d p rest
      | rest => (none, p, rest)
    let rest := if d.isProgram then rest.dropWhile sizes.contains else rest
    let width := width.getD 0
    let field : Field := ⟨if width < 0 then '-' :: flags else flags, width.natAbs,
      precision.bind fun m => if m < 0 then none else some m.toNat⟩
    let front := String.ofList ('%' :: cs.take (cs.length - rest.length + 1))
    match rest with
    | letter :: rest =>
      match fill? d p field letter with
      | some p => if p.isStopped then p else once d n p rest
      | none =>
        p.broken d (front ++ if d.isProgram then ": invalid conversion specification" else ": invalid directive")
    | [] => p.broken d (if d.isProgram then front ++ ": invalid conversion specification" else "missing format character")
  | n + 1, p, '\\' :: cs =>
    let known : Escapes := if d.isProgram then ⟨true, false, true, true, true⟩ else ⟨true, false, false, false, false⟩
    match escape known cs with
    | (.char c, rest) => once d n (p.put c.toString) rest
    | (.text s, rest) => once d n (p.put s) rest
    | (.stop, _) => { p with isStopped := true }
    | (.senseless, _) => p.broken d "missing hexadecimal number in escape"
  | n + 1, p, c :: cs => once d n (p.put c.toString) cs

/-- Writes a format as often as there are arguments for it. -/
def again (d : Dialect) (cs : List Char) : Nat → Progress → Progress
  | 0, p => p
  | n + 1, p =>
    let q := once d (cs.length + 1) p cs
    if q.isStopped || q.arguments.isEmpty then q
    else if q.arguments.length = p.arguments.length then
      if d.isProgram then q.complain ("warning: ignoring excess arguments, starting with '" ++ q.arguments.headD "" ++ "'")
      else q
    else again d cs n q

/-- What `printf` writes, what it complains about behind so many characters of it, in order, and its status. -/
def printf (d : Dialect) (format : String) (arguments : List String) : String × List (Nat × String) × Nat :=
  let p := again d format.toList (arguments.length + 1) ⟨"", arguments, [], 0, false⟩
  (p.written, p.complaints.reverse, p.status)

/-- A text without backslashes is written as it is. -/
theorem unescaped_plain {k : Escapes} {s : String} (h : s.toList.contains '\\' = false) :
    unescaped k s = (s, false) := by
  unfold unescaped
  simp only [h, Bool.false_eq_true, ↓reduceIte]

end Format

end RunLedger.Sandbox
