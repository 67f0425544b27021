import RunLedger.Text.Decimal

/-!
# Points in time, spans and deadlines

A `Duration` is a number of nanoseconds that stays below `2^64` seconds. A `Timestamp` is a wall-clock reading in
seconds and nanoseconds as it was taken down: its nanoseconds may exceed a second, and it orders by its two fields. It
stands for a duration since the epoch unless carrying the nanoseconds would pass `2^64` seconds. A `Deadline` is one
64-bit number of milliseconds, the largest of which means that there is none.

* `asMillis_ofMillis`: milliseconds survive the way through a timestamp.
-/

namespace RunLedger

/-- Nanoseconds in a second. -/
def nanosPerSecond : Nat := 1000000000

/-- A span of time in nanoseconds. -/
structure Duration where
  total : Nat
  total_lt : total < UInt64.size * nanosPerSecond
  deriving DecidableEq

namespace Duration

/-- The longest span. -/
def max : Duration := ⟨UInt64.size * nanosPerSecond - 1, by decide⟩

/-- No time. -/
def zero : Duration := ⟨0, by decide⟩

instance : Inhabited Duration := ⟨zero⟩

/-- Whole seconds. -/
def seconds (d : Duration) : UInt64 := UInt64.ofNat (d.total / nanosPerSecond)

/-- Nanoseconds beyond the whole seconds. -/
def nanos (d : Duration) : UInt32 := UInt32.ofNat (d.total % nanosPerSecond)

/-- A number of nanoseconds, or the longest span if there are more. -/
def clamp (total : Nat) : Duration :=
  if h : total < UInt64.size * nanosPerSecond then ⟨total, h⟩ else max

/-- Seconds and nanoseconds, unless their sum is no span. -/
def ofParts? (seconds : UInt64) (nanos : UInt32) : Option Duration :=
  let total := seconds.toNat * nanosPerSecond + nanos.toNat
  if h : total < UInt64.size * nanosPerSecond then some ⟨total, h⟩ else none

/-- The sum, or the longest span. -/
def add (a b : Duration) : Duration := clamp (a.total + b.total)

/-- The difference, or no time. -/
def sub (a b : Duration) : Duration := ⟨a.total - b.total, Nat.lt_of_le_of_lt (Nat.sub_le _ _) a.total_lt⟩

end Duration

/-- A reading of the wall clock. -/
structure Timestamp where
  seconds : UInt64
  nanos : UInt32
  deriving DecidableEq, Repr, Inhabited

namespace Timestamp

/-- The start of time. -/
def epoch : Timestamp := ⟨0, 0⟩

/-- The shown form: seconds, a point and at least nine digits of nanoseconds. -/
def text (t : Timestamp) : String :=
  Text.Decimal.text t.seconds.toNat ++ "." ++ Text.Decimal.padded 9 t.nanos.toNat

/-- The reading at a number of milliseconds. -/
def ofMillis (millis : UInt64) : Timestamp := ⟨millis / 1000, (millis % 1000 * 1000000).toUInt32⟩

/-- Milliseconds since the epoch, or the largest 64-bit number. -/
def asMillis (t : Timestamp) : UInt64 :=
  UInt64.ofNat (min (t.seconds.toNat * 1000 + t.nanos.toNat / 1000000) (UInt64.size - 1))

/-- A number of milliseconds is read off the reading made from it. -/
theorem asMillis_ofMillis (m : UInt64) : (ofMillis m).asMillis = m := by
  have hm := m.toNat_lt
  apply UInt64.toNat_inj.mp
  have hn : (m % 1000 * 1000000).toUInt32.toNat = m.toNat % 1000 * 1000000 := by
    simp [UInt64.toNat_mod]
    omega
  have hs : (m / 1000).toNat = m.toNat / 1000 := by simp [UInt64.toNat_div]
  simp only [asMillis, ofMillis, hn, hs, UInt64.toNat_ofNat', UInt64.size]
  omega

/-- The span since the epoch, unless it is too long. -/
def sinceEpoch? (t : Timestamp) : Option Duration := Duration.ofParts? t.seconds t.nanos

/-- The reading a span after the epoch. -/
def ofDuration (d : Duration) : Timestamp := ⟨d.seconds, d.nanos⟩

/-- The span since an earlier reading, none if that is later. Undefined if either is no span since the epoch. -/
def durationSince? (t earlier : Timestamp) : Option Duration := do
  let a ← t.sinceEpoch?
  let b ← earlier.sinceEpoch?
  some (a.sub b)

/-- The reading a span later, at most the last one. Undefined if this one is no span since the epoch. -/
def add? (t : Timestamp) (d : Duration) : Option Timestamp := do
  let a ← t.sinceEpoch?
  some (ofDuration (a.add d))

/-- Order by seconds, then by nanoseconds as written. -/
def compare (a b : Timestamp) : Ordering := (Ord.compare a.seconds b.seconds).then (Ord.compare a.nanos b.nanos)

/-- Whether a reading is not after another. -/
def le (a b : Timestamp) : Bool := a.seconds < b.seconds || (a.seconds = b.seconds && a.nanos ≤ b.nanos)

end Timestamp

/-- The latest time by which something should be done, in milliseconds since the epoch. -/
structure Deadline where
  raw : UInt64
  deriving DecidableEq, Repr

namespace Deadline

/-- No deadline. -/
def none : Deadline := ⟨UInt64.ofNat (UInt64.size - 1)⟩

instance : Inhabited Deadline := ⟨none⟩

/-- The deadline at a reading of the clock, the last one before `none` at most. -/
def ofTimestamp (t : Timestamp) : Deadline := ⟨UInt64.ofNat (min t.asMillis.toNat (UInt64.size - 2))⟩

/-- Whether there is a deadline. -/
def isSet (d : Deadline) : Bool := d ≠ none

/-- Whether the deadline has passed. -/
def isExpiredAt (d : Deadline) (now : Timestamp) : Bool := d.isSet && d.raw ≤ now.asMillis

/-- The time left: nothing if there is no deadline. -/
def remainingAt? (d : Deadline) (now : Timestamp) : Option Duration :=
  if d.isSet then some (Duration.clamp ((d.raw.toNat - now.asMillis.toNat) * 1000000)) else Option.none

end Deadline

end RunLedger
