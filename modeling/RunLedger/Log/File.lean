import RunLedger.Log.Writer
import RunLedger.Storage.Disk

/-!
# Log files

A log that is written to a file of its own. The file is opened to append, so records go to its end as it is at the time
of the write.
-/

namespace RunLedger

/-- A log file that is open to append. -/
structure LogFile where
  inode : Nat
  records : UInt64
  bytes : UInt64
  deriving DecidableEq

namespace LogFile

/-- Makes a new file and writes a preamble to it. -/
def create (d : Disk) (path : String) (stamp : Stamp) (p : Preamble) : Except LogError (LogFile × Disk) := do
  let (inode, d) ← (d.createNew path).mapError .io
  let bytes ← (Frame.encode (stamp.message (.preamble p))).mapError .frame
  return (⟨inode, 1, UInt64.ofNat bytes.length⟩, d.append inode bytes)

/-- Appends messages with one write. -/
def appendBatch (f : LogFile) (d : Disk) (ms : List Message) : Except LogError (LogFile × Disk) := do
  let bytes ← (Frame.encodeAll ms).mapError .frame
  return (⟨f.inode, f.records + UInt64.ofNat ms.length, f.bytes + UInt64.ofNat bytes.length⟩, d.append f.inode bytes)

/-- Reads the log at a path as a reader of the given schema. -/
def read (d : Disk) (path : String) (reader : Version) : Except LogError LogContents := do
  let log ← (d.read path).mapError .io
  readLog log reader

end LogFile

end RunLedger
