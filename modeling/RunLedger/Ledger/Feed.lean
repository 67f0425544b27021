import RunLedger.Message.Basic

/-!
# Feeds

What is appended to a run's log is also published to the watchers of the run. A `Feed` holds what one watcher has not
taken yet. It is bounded: a message that finds it full pushes out the oldest, and the watcher is told once that it
missed some. A closed feed takes nothing more; what it holds can still be taken.

* `length_push_le`: a feed never holds more than its capacity.
* `push_of_closed`: a closed feed stays as it is.
-/

namespace RunLedger.Ledger

/-- A message with its place in a log. -/
structure Persisted where
  record : Nat
  /-- The offset behind the record. -/
  stop : Nat
  message : Message
  deriving DecidableEq

/-- What a watcher has not taken yet of what was published to it. -/
structure Feed where
  capacity : Nat
  /-- Published and not taken, oldest first. -/
  waiting : List Persisted
  /-- Whether messages were pushed out since the watcher was last told. -/
  missed : Bool
  isOpen : Bool
  deriving DecidableEq

/-- What a look into a feed finds. -/
inductive Reception where
  | message (p : Persisted)
  /-- Messages were pushed out. -/
  | missed
  /-- All is taken, and more may come. -/
  | empty
  /-- All is taken, and nothing more will come. -/
  | closed
  deriving DecidableEq

namespace Feed

/-- A feed that keeps at least so many messages: a power of two of them. -/
def new (capacity : Nat) (isOpen : Bool) : Feed := ⟨(max 1 capacity).nextPowerOfTwo, [], false, isOpen⟩

/-- The feed after a message was published. -/
def push (f : Feed) (p : Persisted) : Feed :=
  if !f.isOpen then f
  else if f.waiting.length < f.capacity then { f with waiting := f.waiting ++ [p] }
  else { f with waiting := f.waiting.tail ++ [p], missed := true }

/-- The feed when nothing more will be published. -/
def close (f : Feed) : Feed := { f with isOpen := false }

/-- Takes the oldest message, unless the watcher must first be told that it missed some. -/
def receive (f : Feed) : Reception × Feed :=
  if f.missed then (.missed, { f with missed := false })
  else
    match f.waiting with
    | p :: rest => (.message p, { f with waiting := rest })
    | [] => if f.isOpen then (.empty, f) else (.closed, f)

/-- Bounds the looks into a feed until it is empty. -/
def weight (f : Feed) : Nat := 4 * f.waiting.length + 2 * f.missed.toNat

theorem weight_of_receive_message {f f' : Feed} {p : Persisted} (h : f.receive = (.message p, f')) :
    f'.weight + 4 = f.weight := by
  unfold receive at h
  split at h
  · cases h
  · split at h
    · cases h
      simp_all [weight]
      omega
    · split at h <;> cases h

theorem weight_of_receive_missed {f f' : Feed} (h : f.receive = (.missed, f')) : f'.weight + 2 = f.weight := by
  unfold receive at h
  split at h
  · cases h
    simp_all [weight]
  · split at h
    · cases h
    · split at h <;> cases h

theorem length_push_le {f : Feed} (p : Persisted) (hc : 0 < f.capacity) (h : f.waiting.length ≤ f.capacity) :
    (f.push p).waiting.length ≤ (f.push p).capacity := by
  unfold push
  split
  · exact h
  · split <;> simp <;> omega

theorem push_of_closed {f : Feed} (p : Persisted) (h : f.isOpen = false) : f.push p = f := by simp [push, h]

end Feed

end RunLedger.Ledger
