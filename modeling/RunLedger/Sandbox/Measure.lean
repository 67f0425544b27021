import RunLedger.Sandbox.Pause

/-!
# Measures

Numbers with a fraction as programs read and write them: kept with so many binary digits, and written with so many
decimal ones, an exact half to the even neighbour.

* `rounded_exact`: a quotient without a rest is not rounded.
-/

namespace RunLedger.Sandbox

/-- A number of a sign, as a multiple of a power of two. -/
structure Measure where
  isNegative : Bool
  /-- Nothing for what has no end, or is no number. -/
  size : Option (Nat × Int)
  isNumber : Bool
  deriving DecidableEq

namespace Measure

/-- The whole number nearest to a quotient. -/
def rounded (n d : Nat) : Nat :=
  let q := n / d
  let rest := 2 * (n % d)
  if rest < d || (rest = d && q % 2 = 0) then q else q + 1

/-- A power of two, or its inverse, as a quotient. -/
def scale (base : Nat) (e : Int) : Nat × Nat := if 0 ≤ e then (Nat.pow base e.toNat, 1) else (1, Nat.pow base (-e).toNat)

/-- How many binary digits a number has. -/
def digitCount (n : Nat) : Nat := if n = 0 then 0 else Nat.log2 n + 1

/-- A quotient with so many binary digits. -/
def kept (bits n d : Nat) : Nat × Int :=
  if n = 0 then (0, 0)
  else
    let e := Int.ofNat (digitCount n) - Int.ofNat (digitCount d) - Int.ofNat bits
    let fit := fun (e : Int) =>
      let (up, down) := scale 2 (-e)
      rounded (n * up) (d * down)
    let m := fit e
    if Nat.pow 2 bits ≤ m then
      let m := fit (e + 1)
      if Nat.pow 2 bits ≤ m then (m / 2, e + 2) else (m, e + 1)
    else (m, e)

/-- The largest power of two that is reached by numbers of so many digits. -/
def maxExponent (bits : Nat) : Int := if bits ≤ 53 then 1024 else 16384

/-- The number of a sign and a quotient. -/
def ofQuotient (bits : Nat) (isNegative : Bool) (n d : Nat) : Measure :=
  let (m, e) := kept bits n d
  if m ≠ 0 && maxExponent bits < e + Int.ofNat (digitCount m) then ⟨isNegative, none, true⟩
  else ⟨isNegative, some (m, e), true⟩

/-- The largest exponent that is worked out. -/
def maxPower : Nat := 20000

/-- The number of digits in a base behind a sign, and what follows. -/
def digits? (bits : Nat) (isNegative : Bool) (base root : Nat) (letter : Char) (cs : List Char) :
    Option (Measure × List Char) :=
  let (whole, rest) := Pause.digitsIn base cs
  let (fraction, rest) := match rest with
    | '.' :: more =>
      let (fraction, behind) := Pause.digitsIn base more
      if whole.isEmpty && fraction.isEmpty then ([], rest) else (fraction, behind)
    | more => ([], more)
  if whole.isEmpty && fraction.isEmpty then none
  else
    let ((isSmall, power), rest) := Pause.exponent letter rest
    let power := min power maxPower
    let value := Pause.valueIn base (whole ++ fraction)
    let below := Nat.pow base fraction.length
    let size := Nat.pow root power
    some (if isSmall then ofQuotient bits isNegative value (below * size)
      else ofQuotient bits isNegative (value * size) below, rest)

/-- Whether a text starts with a word, whatever its case. -/
def startsWith (word : String) (cs : List Char) : Bool := word.toList.isPrefixOf (cs.map Char.toLower)

/-- The number in front of a text, with so many binary digits, and what follows. -/
def read? (bits : Nat) (s : String) : Option (Measure × List Char) :=
  let cs := s.toList.dropWhile fun c => c = ' ' || ('\t' ≤ c && c ≤ '\r')
  let (isNegative, cs) := match cs with
    | '-' :: cs => (true, cs)
    | '+' :: cs => (false, cs)
    | cs => (false, cs)
  if startsWith "infinity" cs then some (⟨isNegative, none, true⟩, cs.drop 8)
  else if startsWith "inf" cs then some (⟨isNegative, none, true⟩, cs.drop 3)
  else if startsWith "nan" cs then some (⟨isNegative, none, false⟩, cs.drop 3)
  else
    let hexadecimal := if startsWith "0x" cs then digits? bits isNegative 16 2 'p' (cs.drop 2) else none
    hexadecimal.or (digits? bits isNegative 10 10 'e' cs)

/-- Zero. -/
def zero : Measure := ⟨false, some (0, 0), true⟩

/-! ## Writing -/

/-- The digits of a number, at least so many. -/
def padded (count n : Nat) : List Char :=
  let ds := Nat.toDigits 10 n
  List.replicate (count - ds.length) '0' ++ ds

/-- A size with so many digits behind the point. -/
def fixedText (places : Nat) (hasPoint : Bool) (m : Nat) (e : Int) : String :=
  let (up, down) := scale 2 e
  let ds := padded (places + 1) (rounded (m * up * Nat.pow 10 places) down)
  let whole := ds.take (ds.length - places)
  let fraction := ds.drop (ds.length - places)
  String.ofList (whole ++ (if places = 0 && !hasPoint then [] else '.' :: fraction))

/-- A size as digits with one in front of the point, and the power of ten. -/
def scientific (places m : Nat) (e : Int) : List Char × Int :=
  if m = 0 then (List.replicate (places + 1) '0', 0)
  else
    let (up, down) := scale 2 e
    let n := m * up
    let guess : Int := Int.ofNat (Nat.toDigits 10 n).length - Int.ofNat (Nat.toDigits 10 down).length
    let (a, b) := scale 10 guess
    let power := if n * b < down * a then guess - 1 else guess
    let (a, b) := scale 10 (Int.ofNat places - power)
    let ds := padded (places + 1) (rounded (n * a) (down * b))
    if ds.length = places + 2 then (ds.take (places + 1), power + 1) else (ds, power)

/-- A size with an exponent, from its digits. -/
def exponentText (letter : Char) (hasPoint : Bool) (ds : List Char) (power : Int) : String :=
  let fraction := ds.drop 1
  String.ofList (ds.take 1 ++ (if fraction.isEmpty && !hasPoint then [] else '.' :: fraction) ++
    letter :: (if power < 0 then '-' else '+') :: padded 2 power.natAbs)

/-- A text of digits without the zeros at the end of its fraction. -/
def withoutZeros (cs : List Char) : List Char :=
  if cs.contains '.' then
    let kept := cs.reverse.dropWhile (· = '0')
    (if kept.head? = some '.' then kept.drop 1 else kept).reverse
  else cs

/-- A size in the shorter of the two ways, with so many digits that count. -/
def shortText (letter : Char) (count : Nat) (isFull : Bool) (m : Nat) (e : Int) : String :=
  let count := max count 1
  let (ds, power) := scientific (count - 1) m e
  let trim := fun (cs : List Char) => if isFull then cs else withoutZeros cs
  if -4 ≤ power && power < Int.ofNat count then
    String.ofList (trim (fixedText (Int.ofNat count - 1 - power).toNat isFull m e).toList)
  else
    let digits := trim (ds.take 1 ++ '.' :: ds.drop 1)
    let digits := if !isFull then digits else ds.take 1 ++ '.' :: ds.drop 1
    exponentText letter (isFull && ds.length = 1) (digits.filter (· ≠ '.')) power

/-- A size in hexadecimal digits with a power of two, with so many bits in front of the point. -/
def hexText (front bits m : Nat) (e : Int) : String :=
  if m = 0 then "0x0p+0"
  else
    let m := m * Nat.pow 2 (bits - digitCount m)
    let e := e - Int.ofNat (bits - digitCount (m / Nat.pow 2 (bits - digitCount m)))
    let places := (bits - front + 3) / 4
    let m := m * Nat.pow 2 (places * 4 + front - bits)
    let ds := Nat.toDigits 16 m
    let fraction := ((ds.drop 1).reverse.dropWhile (· = '0')).reverse
    let power := e + Int.ofNat (bits - front)
    String.ofList ('0' :: 'x' :: ds.take 1 ++ (if fraction.isEmpty then [] else '.' :: fraction) ++
      'p' :: (if power < 0 then '-' else '+') :: Nat.toDigits 10 power.natAbs)

/-- The text of a number as a letter asks, without its sign. -/
def text (letter : Char) (bits : Nat) (precision : Option Nat) (isFull : Bool) (v : Measure) : String :=
  let cased := fun (s : String) => if letter.isUpper then s.toUpper else s
  match v.size with
  | none => cased (if v.isNumber then "inf" else "nan")
  | some (m, e) =>
    let places := precision.getD 6
    match letter.toLower with
    | 'f' => fixedText places isFull m e
    | 'e' =>
      let (ds, power) := scientific places m e
      exponentText letter isFull ds power
    | 'g' => shortText (if letter = 'G' then 'E' else 'e') places isFull m e
    | _ => cased (hexText (if bits ≤ 53 then 1 else 4) bits m e)

/-- A quotient without a rest is not rounded. -/
theorem rounded_exact (n d : Nat) (h : 0 < d) : rounded (n * d) d = n := by
  simp [rounded, Nat.mul_div_cancel _ h, h]

end Measure

end RunLedger.Sandbox
