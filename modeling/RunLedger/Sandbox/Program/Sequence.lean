import RunLedger.Sandbox.Format
import RunLedger.Sandbox.Program.Stream

/-!
# Numbers in a row

`seq` writes the numbers from one to another, with as many places behind the point as its arguments have. `factor` writes
the prime factors of numbers.

* `factors_one`: one has no prime factors.
-/

namespace RunLedger.Sandbox.Program

/-- A decimal number: a whole number of units, each a tenth part of a tenth part so often; and how wide it was written. -/
structure DecimalNumber where
  units : Int
  places : Nat
  width : Nat
  /-- Whether it is beyond all others. -/
  isEndless : Bool
  deriving Repr

/-- The units of a number with more places. -/
def DecimalNumber.scaled (d : DecimalNumber) (places : Nat) : Int := d.units * Int.ofNat (Nat.pow 10 (places - d.places))

/-- Reads a decimal number. -/
def decimal? (s : String) : Option DecimalNumber :=
  let cs := s.toList.dropWhile fun c => c = ' ' || ('\t' ≤ c && c ≤ '\r')
  let (sign, rest) := match cs with
    | '-' :: rest => (true, rest)
    | '+' :: rest => (false, rest)
    | rest => (false, rest)
  let signed := fun (n : Nat) => if sign then -Int.ofNat n else Int.ofNat n
  let lower := rest.map Char.toLower
  if lower = "inf".toList || lower = "infinity".toList then some ⟨if sign then -1 else 1, 0, 0, true⟩
  else if lower.take 2 = ['0', 'x'] then
    let (ds, after) := Pause.digitsIn 16 (lower.drop 2)
    if ds.isEmpty || !after.isEmpty then none else some ⟨signed (Pause.valueIn 16 ds), 0, s.length, false⟩
  else
    let whole := rest.takeWhile Char.isDigit
    let (fraction, hasPoint, after) := match rest.drop whole.length with
      | '.' :: more =>
        let ds := more.takeWhile Char.isDigit
        (ds, true, more.drop ds.length)
      | more => ([], false, more)
    let power : Option Int := match after with
      | [] => some 0
      | e :: ds =>
        if e ≠ 'e' && e ≠ 'E' then none
        else
          let (sign, ds) := match ds with
            | '-' :: ds => (true, ds)
            | '+' :: ds => (false, ds)
            | ds => (false, ds)
          if ds.isEmpty || !ds.all Char.isDigit then none
          else some (if sign then -Int.ofNat (Text.Decimal.value ds) else Int.ofNat (Text.Decimal.value ds))
    if whole.isEmpty && fraction.isEmpty then none
    else
      power.map fun power =>
        let places := Int.ofNat fraction.length - power
        let value := Text.Decimal.value (whole ++ fraction)
        let width := (if sign then 1 else 0) + max whole.length 1 + (if hasPoint && !fraction.isEmpty then fraction.length + 1 else 0)
        let width := width + power.natAbs + (if power < 0 && !hasPoint then 1 else 0)
        if 0 ≤ places then ⟨signed value, places.toNat, width, false⟩
        else ⟨signed (value * Nat.pow 10 places.natAbs), 0, width, false⟩

/-- The text of a number of units with so many places. -/
def decimalText (places : Nat) (units : Int) : String :=
  let digits := Text.Decimal.text units.natAbs
  let digits := String.ofList (List.replicate (places + 1 - digits.length) '0') ++ digits
  let front := (digits.take (digits.length - places)).toString
  (if units < 0 then "-" else "") ++ front ++ (if places = 0 then "" else "." ++ (digits.drop (digits.length - places)).toString)

/-- A number's text with zeros behind its sign, up to a width. -/
def zeroPadded (width : Nat) (s : String) : String :=
  let zeros := String.ofList (List.replicate (width - s.length) '0')
  if s.startsWith "-" then "-" ++ zeros ++ (s.drop 1).toString else zeros ++ s

/-- How numbers in a row are written. -/
structure Row where
  places : Nat
  step : Int
  /-- The last number, if there is one. -/
  last : Option Int
  separator : String
  shown : Int → String

/-- The nanoseconds that a portion of numbers takes. -/
def rowPause : Nat := 200000

/-- Writes numbers from one on, in portions, as many as there is fuel for. -/
def putRow (c : Call) (k : Row) : Nat → Bool → Int → Act Nat
  | 0, _, _ => return 0
  | n + 1, isFirst, start => do
    let most := 1000
    let left := match k.last with
      | none => most
      | some last =>
        let distance := if 0 < k.step then last - start else start - last
        if distance < 0 then 0 else min most ((distance / Int.ofNat k.step.natAbs).toNat + 1)
    let numbers := (List.range left).map fun i => k.shown (start + k.step * Int.ofNat i)
    let text := k.separator.intercalate numbers
    let front := if isFirst || left = 0 then "" else k.separator
    if left < most then
      c.put (front ++ text ++ (if left = 0 && isFirst then "" else "\n"))
      return 0
    else
      c.put (front ++ text)
      Act.rest rowPause
      putRow c k n false (start + k.step * Int.ofNat left)

/-- Whether a word is a number with a sign rather than an option. -/
def isNegativeNumber (word : String) : Bool :=
  match word.toList with
  | '-' :: d :: _ => d.isDigit || d = '.'
  | _ => false

/-- The arguments of `seq`, with numbers kept from being taken for options. -/
def numbersApart : List String → List String
  | [] => []
  | "--" :: rest => "--" :: rest
  | [word] => if isNegativeNumber word then ["--", word] else [word]
  | word :: value :: rest =>
    if isNegativeNumber word then "--" :: word :: value :: rest
    else if word = "-s" || word = "-f" then word :: value :: numbersApart rest
    else if word.startsWith "-" then word :: numbersApart (value :: rest)
    else word :: value :: rest

/-- What is wrong with a format for numbers, if anything is. -/
def formatFlaw? (format : String) : Option String :=
  let plain := format.replace "%%" ""
  match plain.splitOn "%" with
  | [_] => some ("format " ++ Quoted.always format ++ " has no % directive")
  | [_, tail] =>
    let rest := tail.toList.dropWhile fun c => c.isDigit || ['-', '+', ' ', '#', '0', '.', '\'', 'L'].contains c
    match rest with
    | c :: _ =>
      if ['e', 'f', 'g', 'a', 'E', 'F', 'G', 'A'].contains c then none
      else some ("format " ++ Quoted.always format ++ " has unknown %" ++ c.toString ++ " directive")
    | [] => some ("format " ++ Quoted.always format ++ " ends in %")
  | _ => some ("format " ++ Quoted.always format ++ " has too many % directives")

/-- `seq`: writes numbers in a row. -/
def seq (c : Call) : Act Nat :=
  let table : OptionTable := ⟨"w", "sf", "", [("equal-width", 'w'), ("separator", 's'), ("format", 'f')], true⟩
  ({ c with argv := c.name :: numbersApart c.arguments } : Call).reading table 1 fun a => do
    match a.operands with
    | [] => c.misused 1 "missing operand"
    | _ :: _ :: _ :: extra :: _ => c.misused 1 ("extra operand " ++ Quoted.marked extra)
    | operands =>
      match operands.find? fun s => (decimal? s).isNone with
      | some s => c.misused 1 ("invalid floating point argument: " ++ Quoted.marked s)
      | none =>
        let one : DecimalNumber := ⟨1, 0, 1, false⟩
        let (first, step, last) := match operands.filterMap decimal? with
          | [last] => (one, one, last)
          | [first, last] => (first, one, last)
          | [first, step, last] => (first, step, last)
          | _ => (one, one, one)
        match (a.value? 'f').bind formatFlaw? with
        | some text => c.refuse 1 text
        | none =>
          if step.units = 0 then
            c.misused 1 ("invalid Zero increment value: " ++ Quoted.marked (operands[1]?.getD ""))
          else
            let places := max first.places step.places
            let scale := max places last.places
            let widths := fun (d : DecimalNumber) =>
              d.width + places - d.places - (if d.places ≠ 0 && places = 0 then 1 else 0) +
                (if d.places = 0 && places ≠ 0 then 1 else 0)
            let width := max (widths first) (widths last)
            -- The last number counts in whole steps, so that its own further places do not matter.
            let bound := if last.isEndless then none
              else
                let s := Int.ofNat (Nat.pow 10 (scale - places))
                some (if 0 < step.units then (last.scaled scale).fdiv s else -((-(last.scaled scale)).fdiv s))
            let shown := fun (n : Int) =>
              let text := decimalText places n
              match a.value? 'f' with
              | some format => (Format.printf .program format [text]).1
              | none => if a.has 'w' then zeroPadded width text else text
            let isPast := last.isEndless && ((0 < step.units) != (0 < last.units))
            if isPast then return 0
            else
              putRow c ⟨places, step.scaled places, bound, (a.value? 's').getD "\n", shown⟩ Act.manyTries true
                (first.scaled places)

/-- The prime factors of a number from a candidate on, as many steps as there is fuel for. -/
def factorsFrom : Nat → Nat → Nat → List Nat
  | 0, _, n => if n ≤ 1 then [] else [n]
  | fuel + 1, p, n =>
    if n ≤ 1 then []
    else if n < p * p then [n]
    else if n % p = 0 then p :: factorsFrom fuel p (n / p)
    else factorsFrom fuel (p + 1) n

/-- The prime factors of a number. -/
def factors (n : Nat) : List Nat := factorsFrom (Nat.pow 2 (Nat.log2 n / 2 + 1) + 80) 2 n

/-- `factor`: writes the prime factors of numbers. -/
def factor (c : Call) : Act Nat :=
  c.reading ⟨"h", "", "", [("exponents", 'h')], false⟩ 1 fun a => do
    let words ← if a.operands.isEmpty then do
        let text := ((← Act.readAll 0).map Octets.ofArray).toOption.getD ""
        pure ((((text.replace "\n" " ").replace "\t" " ").splitOn " ").filter (· ≠ ""))
      else pure a.operands
    each 1 (fun word => do
      let digits := word.toList.dropWhile fun c => c = ' ' || c = '+'
      if digits.isEmpty || !digits.all Char.isDigit then
        c.complain (Quoted.marked word ++ " is not a valid positive integer")
        return false
      else
        let n := Text.Decimal.value digits
        c.put (Text.Decimal.text n ++ ":" ++ String.join ((factors n).map fun p => " " ++ Text.Decimal.text p) ++ "\n")
        return true) words

/-- One has no prime factors. -/
theorem factors_one : factors 1 = [] := by decide

end RunLedger.Sandbox.Program
