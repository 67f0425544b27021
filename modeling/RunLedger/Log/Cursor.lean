import RunLedger.Log.Frame

/-!
# Cursors

A cursor is a place in a log: how many records lie before it and at which octet the next one starts. Reading takes every
record from there on that decodes and stops at the first that does not, which stays unread: the cursor then stands in
front of it. Both numbers stop at the largest 64-bit number.
-/

namespace RunLedger

/-- The largest position. -/
def maxPosition : Nat := UInt64.size - 1

/-- A place in a log. -/
structure Cursor where
  record : Nat
  offset : Nat
  deriving DecidableEq, Repr, Inhabited

/-- What a read found: the messages in order, and where the first undecodable record starts. -/
structure ReadOutcome where
  messages : List Message
  truncatedAt : Option Nat
  deriving DecidableEq, Inhabited

/-- Whether the read ended before the log did. -/
def ReadOutcome.isTruncated (r : ReadOutcome) : Bool := r.truncatedAt.isSome

namespace Cursor

/-- The start of a log. -/
def start : Cursor := ⟨0, 0⟩

/-- The cursor behind one more record of the given length. -/
def advance (c : Cursor) (length : Nat) : Cursor := ⟨min (c.record + 1) maxPosition, min (c.offset + length) maxPosition⟩

/-- Reads the octets behind the cursor, after messages that were read already (latest first). -/
def readOnto (c : Cursor) (read : List Message) (rest : Bytes) : ReadOutcome × Cursor :=
  match h : rest with
  | [] => (⟨read.reverse, none⟩, c)
  | _ :: _ =>
    match hd : Frame.decode rest with
    | .ok (m, n) =>
      have : (rest.drop n).length < rest.length := by
        have := Frame.le_of_decode hd
        simp only [List.length_drop, Frame.overhead] at *
        omega
      readOnto (c.advance n) (m :: read) (rest.drop n)
    | .error _ => (⟨read.reverse, some c.offset⟩, c)
termination_by rest.length
decreasing_by subst h; assumption

/-- Reads a log from the cursor on. Nothing is found behind the end of the log. -/
def read (c : Cursor) (log : Bytes) : ReadOutcome × Cursor :=
  if c.offset ≤ log.length then readOnto c [] (log.drop c.offset) else (⟨[], none⟩, c)

end Cursor

/-- Reads a whole log. -/
def readAll (log : Bytes) : ReadOutcome := (Cursor.start.read log).1

end RunLedger
