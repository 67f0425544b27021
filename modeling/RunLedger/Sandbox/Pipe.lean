/-!
# Pipes

A pipe keeps the octets that were written and not yet read, up to its capacity, and gives them in the order in which
they came. A short write is taken whole or not at all.

* `take_put`: what was put into an empty pipe is what it gives.
-/

namespace RunLedger.Sandbox

/-- The octets on their way, from a place on, and how often the ends of the pipe were opened by its name. -/
structure Pipe where
  octets : ByteArray
  start : Nat
  readerCount : Nat
  writerCount : Nat

namespace Pipe

/-- The most octets on their way. -/
def capacity : Nat := 65536

/-- The most octets that are written all at once. -/
def atom : Nat := 4096

/-- A pipe with nothing in it. -/
def empty : Pipe := ⟨.empty, 0, 0, 0⟩

/-- How many octets are on their way. -/
def size (p : Pipe) : Nat := p.octets.size - p.start

/-- How many of so many octets can be written now. -/
def room (p : Pipe) (count : Nat) : Nat :=
  let free := capacity - p.size
  if count ≤ atom && free < count then 0 else min free count

/-- The pipe with more octets on their way. -/
def put (p : Pipe) (octets : ByteArray) : Pipe :=
  if capacity ≤ p.start then { p with octets := p.octets.extract p.start p.octets.size ++ octets, start := 0 }
  else { p with octets := p.octets ++ octets }

/-- The first octets, at most so many, and the pipe without them. -/
def take (p : Pipe) (count : Nat) : ByteArray × Pipe :=
  let stop := min p.octets.size (p.start + count)
  let taken := p.octets.extract p.start stop
  (taken, if stop = p.octets.size then { p with octets := .empty, start := 0 } else { p with start := stop })

/-- What was put into an empty pipe is what it gives. -/
theorem take_put (octets : ByteArray) : ((empty.put octets).take octets.size).1 = octets := by
  have h : (ByteArray.empty ++ octets).size = octets.size := by simp
  simp [empty, put, take, capacity]

end Pipe

end RunLedger.Sandbox
