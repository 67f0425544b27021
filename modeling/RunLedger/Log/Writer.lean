import RunLedger.Buffer
import RunLedger.Log.Contents

/-!
# Writing logs

A `Target` takes octets until its room is used up: a write that does not fit leaves as much of it as there was room for
and fails, so that a record may be torn. A `LogWriter` frames messages onto a target and counts records and octets, but
only those of writes that succeeded in full. A batch is framed before any of it is written.

* `data_write`: a target takes the front of what is written.
-/

namespace RunLedger

/-- Something that octets are appended to. -/
structure Target where
  content : Buffer
  /-- How many more octets there is room for; no bound if absent. -/
  room : Option Nat
  deriving Inhabited

namespace Target

/-- The octets that were taken. -/
def data (t : Target) : Bytes := t.content.toList

/-- The target after a write, and whether all of it was taken. -/
def write (t : Target) (bytes : Bytes) : Target × Except IoError Unit :=
  match t.room with
  | none => (⟨t.content.append bytes, none⟩, .ok ())
  | some n =>
    if bytes.length ≤ n then (⟨t.content.append bytes, some (n - bytes.length)⟩, .ok ())
    else (⟨t.content.append (bytes.take n), some 0⟩, .error .full)

/-- Whether the target can be flushed: not once its room is used up. -/
def flush (t : Target) : Except IoError Unit := if t.room = some 0 then .error .full else .ok ()

/-- What a target takes is put behind what it has: all of it, or as much as there is room for. -/
theorem data_write (t : Target) (bytes : Bytes) :
    (t.write bytes).1.data = t.data ++ bytes.take (t.room.getD bytes.length) := by
  unfold write
  split
  · rename_i h
    simp [data, h]
  · rename_i n h
    split
    · rename_i hn
      simp [data, h, List.take_of_length_le hn]
    · simp [data, h]

end Target

/-- Frames messages onto a target. -/
structure LogWriter where
  target : Target
  records : UInt64
  bytes : UInt64

namespace LogWriter

/-- Goes on with a log of so many records and octets. -/
def resume (target : Target) (records bytes : UInt64) : LogWriter := ⟨target, records, bytes⟩

/-- Writes octets that hold so many records. -/
def write (w : LogWriter) (count : Nat) (bytes : Bytes) : LogWriter × Except LogError Unit :=
  match w.target.write bytes with
  | (t, .ok ()) => (⟨t, w.records + UInt64.ofNat count, w.bytes + UInt64.ofNat bytes.length⟩, .ok ())
  | (t, .error e) => ({ w with target := t }, .error (.io e))

/-- Appends one message. -/
def append (w : LogWriter) (m : Message) : LogWriter × Except LogError Unit :=
  match Frame.encode m with
  | .ok bytes => w.write 1 bytes
  | .error e => (w, .error (.frame e))

/-- Appends messages with one write. -/
def appendBatch (w : LogWriter) (ms : List Message) : LogWriter × Except LogError Unit :=
  match Frame.encodeAll ms with
  | .ok bytes => w.write ms.length bytes
  | .error e => (w, .error (.frame e))

/-- Starts a log with a preamble. -/
def create (target : Target) (stamp : Stamp) (p : Preamble) : LogWriter × Except LogError Unit :=
  (resume target 0 0).append (stamp.message (.preamble p))

/-- Flushes the target. -/
def flush (w : LogWriter) : Except LogError Unit := w.target.flush.mapError .io

end LogWriter

end RunLedger
