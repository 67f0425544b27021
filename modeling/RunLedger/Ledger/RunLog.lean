import RunLedger.Ledger.Config
import RunLedger.Ledger.Error
import RunLedger.Ledger.Feed

/-!
# Logs of runs

The one writer of a run's log. It reads the log when it is first appended to and cuts off a torn record at its end, so
that new records follow the last good one; from then on it knows how many records and octets there are. A batch is
framed before any of it is written. The first record of a log is a preamble, which is supplied if the batch lacks it,
and no other record is.
-/

namespace RunLedger.Ledger

/-- The end of a log. -/
structure Tail where
  /-- The open file, once something was appended. -/
  inode : Option Nat
  records : Nat
  bytes : Nat
  deriving DecidableEq

/-- What is known of a run's log. -/
structure RunLog where
  /-- The end of the log, once it was looked at. -/
  tail : Option Tail
  /-- Whether what is appended is published. -/
  live : Bool
  deriving DecidableEq

/-- How many messages of a batch were appended, and the number of the first one's record. -/
structure Ack where
  accepted : Nat
  first : Nat
  deriving DecidableEq, Repr

/-- The batch with the preamble that an empty log needs in front of it. -/
def opened (records : Nat) (reader : Version) (supplied : Message) : List Message → Except LogError (List Message)
  | [] => .ok []
  | m :: ms =>
    if records = 0 then
      match m.preamble? with
      | none => .ok (supplied :: m :: ms)
      | some p => if reader.canRead p.version then .ok (m :: ms) else .error (.incompatibleVersion p.version reader)
    else .ok (m :: ms)

/-- The records that messages become behind so many records and octets, and their octets. -/
def place (run : RunId) (record offset : Nat) : List Message → Except Error (List Persisted × Bytes)
  | [] => .ok ([], [])
  | m :: ms =>
    if 0 < record && m.preamble?.isSome then .error (.misplacedPreamble run record)
    else
      match Frame.encode m with
      | .error fault => .error (.frame fault)
      | .ok frame =>
        let stop := offset + frame.length
        (place run (record + 1) stop ms).map fun (records, bytes) => (⟨record, stop, m⟩ :: records, frame ++ bytes)

namespace Tail

/-- Finds the end of the log at a path and cuts off what is not a record. -/
def restore (d : Disk) (path : String) : Except IoError (Tail × Disk) :=
  match d.read path with
  | .error .notFound => .ok (⟨none, 0, 0⟩, d)
  | .error e => .error e
  | .ok log =>
    let read := readAll log
    match read.truncatedAt with
    | none => .ok (⟨none, read.messages.length, log.length⟩, d)
    | some stop => (d.truncate path stop).map fun d => (⟨none, read.messages.length, stop⟩, d)

/-- Writes octets that hold so many records. -/
def write (t : Tail) (d : Disk) (path : String) (count : Nat) (bytes : Bytes) : Except IoError (Tail × Disk) := do
  let (inode, d) ← match t.inode with
    | some inode => .ok (inode, d)
    | none => d.openFile path
  .ok (⟨some inode, t.records + count, t.bytes + bytes.length⟩, d.append inode bytes)

/-- Appends a batch. Nothing is written unless all of it can be. -/
def append (t : Tail) (d : Disk) (c : Config) (run : RunId) (supplied : Message) (batch : List Message) :
    Except Error (Ack × List Persisted × Tail × Disk) := do
  if batch.isEmpty then return (⟨0, t.records⟩, [], t, d)
  let messages ← (opened t.records c.schemaVersion supplied batch).mapError .log
  let (records, bytes) ← place run t.records t.bytes messages
  let (t', d) ← (t.write d (c.logPath run) records.length bytes).mapError .io
  return (⟨batch.length, t.records + (messages.length - batch.length)⟩, records, t', d)

end Tail

namespace RunLog

/-- A log that was not looked at yet. -/
def new : RunLog := ⟨none, true⟩

/-- The end of the log: as it is known, or as it is found. -/
def findTail (log : RunLog) (d : Disk) (path : String) : Except IoError (Tail × Disk) :=
  match log.tail with
  | some t => .ok (t, d)
  | none => Tail.restore d path

/-- Appends a batch, with the records that are to be published. A log that is appended to is live again. -/
def append (log : RunLog) (d : Disk) (c : Config) (run : RunId) (supplied : Message) (batch : List Message) :
    Except Error (Ack × List Persisted) × RunLog × Disk :=
  match log.findTail d (c.logPath run) with
  | .error e => (.error (.io e), log, d)
  | .ok (t, d) =>
    match t.append d c run supplied batch with
    | .error e => (.error e, { log with tail := some t }, d)
    | .ok (ack, records, t, d) => (.ok (ack, records), ⟨some t, log.live || !batch.isEmpty⟩, d)

end RunLog

end RunLedger.Ledger
