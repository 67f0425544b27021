/-!
# Double-precision numbers

A `Double` is the 64 bits of an IEEE 754 number. Finite numbers are read as `mantissa · 2 ^ exponent`; a quotient of
natural numbers is rounded to the nearest double, ties to the one with an even mantissa, in exact arithmetic.

`ofScaled?` reads a decimal number the way the JSON reader does it: the significand and the power of ten are rounded
first, then their product or quotient is. Small powers and significands are exact, so most short decimals read as the
nearest double.
-/

namespace RunLedger

/-- The bits of a double-precision number. -/
structure Double where
  bits : UInt64
  deriving DecidableEq, Repr, Inhabited

namespace Double

/-- Two to the power of 52: how many fractions there are for one exponent. -/
def fractions : Nat := 4503599627370496

/-- The sign bit alone. -/
def signBit : Nat := 2048 * fractions

/-- The exponent field. -/
def exponentField (d : Double) : Nat := d.bits.toNat / fractions % 2048

/-- The fraction field. -/
def fractionField (d : Double) : Nat := d.bits.toNat % fractions

/-- Whether the sign bit is set. -/
def isNegative (d : Double) : Bool := signBit ≤ d.bits.toNat

/-- Whether the number is neither infinite nor undefined. -/
def isFinite (d : Double) : Bool := d.exponentField ≠ 2047

/-- The magnitude of a finite number is `mantissa · 2 ^ exponent`. -/
def mantissa (d : Double) : Nat :=
  if d.exponentField = 0 then d.fractionField else fractions + d.fractionField

/-- The magnitude of a finite number is `mantissa · 2 ^ exponent`. -/
def exponent (d : Double) : Int := if d.exponentField = 0 then -1074 else (d.exponentField : Int) - 1075

/-- A sign and the bits below it. -/
def ofMagnitude (negative : Bool) (low : Nat) : Double :=
  ⟨UInt64.ofNat (if negative then signBit + low else low)⟩

/-- The bits of infinity. -/
def infiniteBits : Nat := 2047 * fractions

/-- The quotient rounded to an integer, a half to the even one. -/
def roundDiv (num den : Nat) : Nat :=
  let q := num / den
  let r := num % den
  if 2 * r < den then q else if 2 * r > den then q + 1 else if q % 2 = 0 then q else q + 1

/-- `num / den`, divided by two to the given power and rounded. -/
def roundScaled (num den : Nat) (power : Int) : Nat :=
  if 0 ≤ power then roundDiv num (den <<< power.toNat) else roundDiv (num <<< (-power).toNat) den

/-- Whether `num / den` is at least two to the given power. -/
def reaches (num den : Nat) (power : Int) : Bool :=
  if 0 ≤ power then den <<< power.toNat ≤ num else den ≤ num <<< (-power).toNat

/-- The exponent of the double nearest to `num / den`: the quotient has 53 binary digits above it, or it is the least. -/
def scaleOf (num den : Nat) : Int :=
  let guess : Int := (Nat.log2 num : Int) - Nat.log2 den - 52
  max (-1074) (if reaches num den (guess + 52) then guess else guess - 1)

/-- The bits of the nonnegative double nearest to `num / den`. A mantissa that rounds up to 54 digits carries into the
exponent by itself. -/
def nearest (num den : Nat) : Nat :=
  if num = 0 then 0
  else
    let e := scaleOf num den
    min infiniteBits ((e + 1074).toNat * fractions + roundScaled num den e)

/-- The double nearest to a natural number. -/
def ofNat (n : Nat) : Double := ⟨UInt64.ofNat (nearest n 1)⟩

/-- A finite nonnegative number as a quotient. -/
def ratio (d : Double) : Nat × Nat :=
  if 0 ≤ d.exponent then (d.mantissa <<< d.exponent.toNat, 1) else (d.mantissa, 1 <<< (-d.exponent).toNat)

/-- The rounded product of finite nonnegative numbers. -/
def mul (a b : Double) : Double :=
  let (n, m) := a.ratio
  let (k, l) := b.ratio
  ⟨UInt64.ofNat (nearest (n * k) (m * l))⟩

/-- The rounded quotient of finite nonnegative numbers, the second not zero. -/
def div (a b : Double) : Double :=
  let (n, m) := a.ratio
  let (k, l) := b.ratio
  ⟨UInt64.ofNat (nearest (n * l) (m * k))⟩

/-- The double nearest to a power of ten, for exponents up to 308. -/
def powerOfTen (n : Nat) : Double := ofNat (Nat.pow 10 n)

/-- The largest power of ten that is a double. -/
def maxPower : Nat := 308

/-- A nonnegative number times ten to the given power, rounded, and nothing if that is beyond the finite numbers. A
negative power past the table divides by its last entry until nothing is left or the rest is in the table. -/
def scale? (d : Double) (power : Int) : Option Double :=
  if power.natAbs ≤ maxPower then
    if 0 ≤ power then
      let p := d.mul (powerOfTen power.toNat)
      if p.isFinite then some p else none
    else some (d.div (powerOfTen (-power).toNat))
  else if d.mantissa = 0 then some d
  else if 0 ≤ power then none
  else scale? (d.div (powerOfTen maxPower)) (power + maxPower)
termination_by power.natAbs
decreasing_by simp only [maxPower] at *; omega

/-- The decimal number `significand · 10 ^ power` as read, with a sign. -/
def ofScaled? (negative : Bool) (significand : Nat) (power : Int) : Option Double :=
  (scale? (ofNat significand) power).map fun d => ofMagnitude negative d.bits.toNat

end Double

end RunLedger
