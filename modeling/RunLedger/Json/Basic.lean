import RunLedger.Double.Shortest

/-!
# JSON values

A value as it was written: members of an object stay in order and may repeat, and a number keeps its digits, so that
the reader of a field decides what they mean. A string literal may hold an escaped surrogate without its partner; such
a literal is no text, and `none` stands for it.

`fields?` and `variant?` are the two shapes that records and tagged unions are read from.
-/

namespace RunLedger

/-- The parts of a number literal. -/
structure Json.Number where
  negative : Bool
  whole : List Char
  /-- The digits after the point, none if there is no point. -/
  fraction : List Char
  /-- Whether the exponent is negative, and its digits. -/
  exponent : Option (Bool × List Char)
  deriving DecidableEq, Repr

/-- A JSON value. -/
inductive Json where
  | null
  | bool (b : Bool)
  | number (n : Json.Number)
  | string (s : Option String)
  | array (items : List Json)
  | object (members : List (Option String × Json))
  deriving Repr, Inhabited

namespace Json

/-- A text. -/
def text (s : String) : Json := .string (some s)

/-- A natural number. -/
def nat (n : Nat) : Json := .number ⟨false, Text.Decimal.digits n, [], none⟩

/-- An object with its members in order. -/
def record (members : List (String × Json)) : Json := .object (members.map fun (k, v) => (some k, v))

namespace Number

/-- The natural number that a literal without point and exponent writes, if it is below a bound. -/
def natBelow? (n : Number) (bound : Nat) : Option Nat :=
  if n.negative || !n.fraction.isEmpty || n.exponent.isSome then none else Text.Decimal.valueBelow? bound n.whole

/-- The significand as it fits 64 bits, with the digits that were left out: digits are taken while the value stays
below `2 ^ 64`. -/
def takeDigits : Nat → List Char → Nat × List Char
  | acc, [] => (acc, [])
  | acc, c :: cs =>
    let next := acc * 10 + (c.toNat - 48)
    if next < UInt64.size then takeDigits next cs else (acc, c :: cs)

/-- The exponent digits as far as they matter: an exponent that passes 31 bits stands for all larger ones. -/
def exponentValue? (digits : List Char) : Option Nat := Text.Decimal.valueBelow? 2147483648 digits

/-- A 32-bit sum that stops at the ends of its range. -/
def clampExponent (e : Int) : Int := max (-2147483648) (min e 2147483647)

/-- The double that a literal writes, unless it is beyond the finite numbers. Digits that do not fit the significand
are dropped; those before the point count into the exponent. -/
def toDouble? (n : Number) : Option Double :=
  let (front, dropped) := takeDigits 0 n.whole
  let (significand, rest) := takeDigits front n.fraction
  let power : Int := (dropped.length : Int) - ((n.fraction.length - rest.length : Nat) : Int)
  match n.exponent with
  | none => Double.ofScaled? n.negative significand power
  | some (down, digits) =>
    match exponentValue? digits with
    | some e => Double.ofScaled? n.negative significand (clampExponent (power + if down then -(e : Int) else e))
    | none => if significand = 0 || down then some (Double.ofMagnitude n.negative 0) else none

/-- The parts of an unsigned positional or scientific text, as `Double.text` writes it. -/
def split (cs : List Char) : List Char × List Char × Option (Bool × List Char) :=
  let isPlain (c : Char) : Bool := c != '.' && c != 'e'
  let whole := cs.takeWhile isPlain
  let (fraction, rest) := match cs.dropWhile isPlain with
    | '.' :: more => (more.takeWhile isPlain, more.dropWhile isPlain)
    | more => ([], more)
  let exponent := match rest with
    | 'e' :: '-' :: ds => some (true, ds)
    | 'e' :: '+' :: ds => some (false, ds)
    | _ => none
  (whole, fraction, exponent)

/-- The literal of a finite number. -/
def ofDouble (d : Double) : Number :=
  let (negative, cs) := match d.text with
    | '-' :: cs => (true, cs)
    | cs => (false, cs)
  let (whole, fraction, exponent) := split cs
  ⟨negative, whole, fraction, exponent⟩

end Number

/-- A double: its shortest literal if it is finite, else null. -/
def double (d : Double) : Json := if d.isFinite then .number (Number.ofDouble d) else .null

/-! ## Reading fields -/

/-- The text of a string. -/
def toText? : Json → Option String
  | .string s => s
  | _ => none

/-- The items of an array. -/
def toList? : Json → Option (List Json)
  | .array items => some items
  | _ => none

/-- A 64-bit number. -/
def toU64? : Json → Option UInt64
  | .number n => (n.natBelow? UInt64.size).map UInt64.ofNat
  | _ => none

/-- A 32-bit number. -/
def toU32? : Json → Option UInt32
  | .number n => (n.natBelow? UInt32.size).map UInt32.ofNat
  | _ => none

/-- A double. -/
def toDouble? : Json → Option Double
  | .number n => n.toDouble?
  | _ => none

/-- The one member with a key. -/
def member? (members : List (Option String × Json)) (key : String) : Option Json :=
  match members.filter fun m => m.1 = some key with
  | [m] => some m.2
  | _ => none

/-- The values of a record's fields, in the order asked for. The record is an object that has each of them once, and
whatever else under keys that are texts, or an array of exactly the values. -/
def fields? (keys : List String) : Json → Option (List Json)
  | .object members =>
    if members.all fun m => m.1.isSome then keys.mapM (member? members) else none
  | .array items => if items.length = keys.length then some items else none
  | _ => none

/-- The name of a variant and what it holds: a name alone, or the only key of an object. -/
def variant? : Json → Option (String × Option Json)
  | .string (some name) => some (name, none)
  | .object [(some name, held)] => some (name, some held)
  | _ => none

/-- The name of a variant that holds nothing. -/
def unitVariant? (j : Json) : Option String :=
  match j.variant? with
  | some (name, none) => some name
  | some (name, some .null) => some name
  | _ => none

end Json

end RunLedger
