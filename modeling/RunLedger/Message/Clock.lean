import RunLedger.Message.Basic

/-!
# Stamping messages

A `Clock` hands out the stamps of the messages that the library makes itself. It counts them, so that identifiers made
at one time differ.
-/

namespace RunLedger

/-- The time, and how many stamps were handed out. -/
structure Clock where
  time : Timestamp
  made : Nat
  deriving DecidableEq, Inhabited

namespace Clock

/-- The next stamp. -/
def stamp (c : Clock) : Stamp := ⟨.made c.time.asMillis.toNat c.made, c.time⟩

/-- The clock after a stamp was handed out. -/
def next (c : Clock) : Clock := { c with made := c.made + 1 }

/-- The clock after some stamps were handed out. -/
def skip (c : Clock) (count : Nat) : Clock := { c with made := c.made + count }

end Clock

end RunLedger
