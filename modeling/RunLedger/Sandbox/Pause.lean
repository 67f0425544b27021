import RunLedger.Text.Decimal
import RunLedger.Text.Hex
import RunLedger.Time

/-!
# Pauses

How long a process is asked to sleep: a number, decimal or hexadecimal, with a fraction and an exponent if need be,
and one letter for its unit. A pause is a number of nanoseconds; one without an end is longer than any deadline.

* `nanos?_empty`: no text is no pause.
-/

namespace RunLedger.Sandbox.Pause

/-- A pause that no process outlives. -/
def forever : Nat := Nat.pow 10 30

/-- The digits in front of a text, by their values in a base, and what follows. -/
def digitsIn (base : Nat) : List Char → List Nat × List Char
  | [] => ([], [])
  | c :: cs =>
    match Text.Hex.value? c.toNat with
    | some d =>
      if d < base then
        let (ds, rest) := digitsIn base cs
        (d :: ds, rest)
      else ([], c :: cs)
    | none => ([], c :: cs)

/-- The number that digits write. -/
def valueIn (base : Nat) (ds : List Nat) : Nat := ds.foldl (fun n d => n * base + d) 0

/-- An exponent behind its letter: its sign, its size, and what follows. Zero if there is none. -/
def exponent (letter : Char) (cs : List Char) : (Bool × Nat) × List Char :=
  match cs with
  | c :: rest =>
    if c.toLower = letter then
      let (negative, digits) := match rest with
        | '-' :: more => (true, more)
        | '+' :: more => (false, more)
        | more => (false, more)
      match digitsIn 10 digits with
      | ([], _) => ((false, 0), cs)
      | (ds, after) => ((negative, valueIn 10 ds), after)
    else ((false, 0), cs)
  | [] => ((false, 0), [])

/-- The nanoseconds of `m * root ^ e / base ^ places` units, given the seconds of a unit. -/
def scaled (m base places root : Nat) (negative : Bool) (e unit : Nat) : Nat :=
  if m = 0 then 0
  else if e > 400 then if negative then 1 else forever
  else
    let whole := m * unit * nanosPerSecond
    if negative then whole / (Nat.pow base places * Nat.pow root e)
    else whole * Nat.pow root e / Nat.pow base places

/-- The seconds of a unit by its letter. -/
def unit? : List Char → Option Nat
  | [] | ['s'] => some 1
  | ['m'] => some 60
  | ['h'] => some 3600
  | ['d'] => some 86400
  | _ => none

/-- Reads a number in a base with its unit. -/
def number? (base root : Nat) (letter : Char) (cs : List Char) : Option Nat :=
  let (whole, rest) := digitsIn base cs
  let (fraction, rest) := match rest with
    | '.' :: more => digitsIn base more
    | more => ([], more)
  if whole.isEmpty && fraction.isEmpty then none
  else
    let ((negative, e), rest) := exponent letter rest
    (unit? rest).map (scaled (valueIn base (whole ++ fraction)) base fraction.length root negative e)

/-- Reads a pause that has no sign. -/
def unsigned? (cs : List Char) : Option Nat :=
  match cs.map Char.toLower with
  | 'i' :: 'n' :: 'f' :: 'i' :: 'n' :: 'i' :: 't' :: 'y' :: _ => (unit? (cs.drop 8)).map fun _ => forever
  | 'i' :: 'n' :: 'f' :: _ => (unit? (cs.drop 3)).map fun _ => forever
  | '0' :: 'x' :: _ => (number? 16 2 'p' (cs.drop 2)).or (number? 10 10 'e' cs)
  | _ => number? 10 10 'e' cs

/-- The nanoseconds of a pause, if the text is one. -/
def nanos? (s : String) : Option Nat :=
  match s.toList.dropWhile fun c => c = ' ' || ('\t' ≤ c && c ≤ '\r') with
  | '+' :: cs => unsigned? cs
  | '-' :: cs => (unsigned? cs).filter (· = 0)
  | cs => unsigned? cs

/-- No text is no pause. -/
theorem nanos?_empty : nanos? "" = none := by decide

end RunLedger.Sandbox.Pause
