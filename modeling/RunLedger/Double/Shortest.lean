import RunLedger.Double.Basic
import RunLedger.Text.Decimal

/-!
# The shortest decimal of a double

The decimals that read back as a positive double form an interval around it, which contains its ends exactly if the
mantissa is even. `shortest` takes the least number of digits for which the decimal grid has a point in that interval and
of these points the one nearest to the number.

`text` writes a finite number: positionally, with at least one digit after the point, if the exponent of its first digit
is between -5 and 15, else as digits and a signed exponent.
-/

namespace RunLedger.Double

/-- A nonnegative rational on the common scale `2 ^ exponent / 4`, in which a double, the midpoints to its neighbours
and a decimal grid are compared. -/
structure Interval where
  /-- Twice the lower end, the number itself and the upper end, over `den`. -/
  low : Nat
  mid : Nat
  high : Nat
  den : Nat
  /-- Whether the ends belong to it. -/
  closed : Bool

/-- The reals that round to a positive finite double. The gap below a power of two is half the gap above it. -/
def interval (d : Double) : Interval :=
  let m := d.mantissa
  let below := if m = fractions ∧ 1 < d.exponentField then 1 else 2
  let up := d.exponent.toNat
  ⟨(4 * m - below) <<< up, (4 * m) <<< up, (4 * m + 2) <<< up, 4 <<< (-d.exponent).toNat, m % 2 = 0⟩

/-- Whether `n · 10 ^ power` lies in the interval. -/
def Interval.contains (i : Interval) (n : Nat) (power : Int) : Bool :=
  let x := n * Nat.pow 10 power.toNat * i.den
  let down := Nat.pow 10 (-power).toNat
  if i.closed then i.low * down ≤ x && x ≤ i.high * down else i.low * down < x && x < i.high * down

/-- Of two neighbours `n` and `n + 1` on the grid of step `10 ^ power`, whether the middle of the interval is nearer to
the lower one; a tie goes to the even one. -/
def Interval.prefersLower (i : Interval) (n : Nat) (power : Int) : Bool :=
  let x := (2 * n + 1) * Nat.pow 10 power.toNat * i.den
  let y := 2 * i.mid * Nat.pow 10 (-power).toNat
  y < x || (y == x && n % 2 == 0)

/-- The greatest point of the grid of step `10 ^ power` that is not above the middle. -/
def Interval.floor (i : Interval) (power : Int) : Nat :=
  i.mid * Nat.pow 10 (-power).toNat / (i.den * Nat.pow 10 power.toNat)

/-- The point of a grid that stands for the number, if a neighbour of the middle lies in the interval. -/
def Interval.onGrid? (i : Interval) (power : Int) : Option Nat :=
  let n := i.floor power
  match i.contains n power && n ≠ 0, i.contains (n + 1) power with
  | true, true => some (if i.prefersLower n power then n else n + 1)
  | true, false => some n
  | false, true => some (n + 1)
  | false, false => none

/-- The exponent of the first decimal digit of a positive number, found from an estimate that is at most one too low. -/
def Interval.leading (i : Interval) : Int :=
  let bits : Int := (Nat.log2 i.mid : Int) - Nat.log2 i.den
  let guess : Int := (bits - 1) * 30103 / 100000 - 1
  let atLeast (e : Int) : Bool := i.den * Nat.pow 10 e.toNat ≤ i.mid * Nat.pow 10 (-e).toNat
  if atLeast (guess + 2) then guess + 2 else if atLeast (guess + 1) then guess + 1 else guess

/-- The first grid that has a point, starting with that of `digits` digits, and the point. -/
def Interval.search (i : Interval) (leading : Int) (digits : Nat) : Nat → Nat × Int
  | 0 => (i.floor (leading - 16), leading - 16)
  | more + 1 =>
    let power := leading - digits + 1
    match i.onGrid? power with
    | some n => (n, power)
    | none => i.search leading (digits + 1) more

/-- The shortest decimal of a positive finite double, as `n · 10 ^ power`. -/
def shortest (d : Double) : Nat × Int :=
  let i := d.interval
  i.search i.leading 1 17

/-- Digits without zeros at the end, and the exponent of the first one. -/
def normal (n : Nat) (power : Int) : List Char × Int :=
  let ds := Text.Decimal.digits n
  ((ds.reverse.dropWhile (· = '0')).reverse, power + ds.length - 1)

/-- Digits with a point after the first `whole` ones, filled up with zeros. -/
def positional (ds : List Char) (whole : Int) : List Char :=
  if whole ≤ 0 then ['0', '.'] ++ List.replicate (-whole).toNat '0' ++ ds
  else
    let k := whole.toNat
    let front := ds.take k ++ List.replicate (k - ds.length) '0'
    let back := ds.drop k
    front ++ '.' :: (if back.isEmpty then ['0'] else back)

/-- Digits with a point after the first, and an exponent. -/
def scientific (ds : List Char) (e : Int) : List Char :=
  ds.take 1 ++ (if ds.length ≤ 1 then [] else '.' :: ds.drop 1) ++
    ['e', if 0 ≤ e then '+' else '-'] ++ Text.Decimal.digits e.natAbs

/-- The least exponent of the first digit that is written positionally. -/
def leastPositional : Int := -5

/-- The greatest exponent of the first digit that is written positionally. -/
def greatestPositional : Int := 15

/-- The shown form of a finite number. -/
def text (d : Double) : List Char :=
  let sign := if d.isNegative then ['-'] else []
  if d.mantissa = 0 then sign ++ ['0', '.', '0']
  else
    let (ds, e) := (fun (n, power) => normal n power) d.shortest
    sign ++ if leastPositional ≤ e ∧ e ≤ greatestPositional then positional ds (e + 1) else scientific ds e

end RunLedger.Double
