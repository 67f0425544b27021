import RunLedger.Digest
import RunLedger.Log.Contents
import RunLedger.Message.Json
import RunLedger.Storage.Disk

/-!
# Configuration

Where a ledger keeps its files and how it treats logs and watchers. Under the root there is a directory with a log for
each run and a record for each upload, and a directory with the stored artifacts, each named by its digest.
-/

namespace RunLedger

/-- A span of time as a record. -/
def Duration.toJson (d : Duration) : Json :=
  .record [("secs", .nat d.seconds.toNat), ("nanos", .nat d.nanos.toNat)]

namespace Ledger

/-- The settings of a ledger. -/
structure Config where
  /-- The directory that everything is kept in. -/
  root : String
  /-- How many live messages are kept for a watcher. -/
  watchCapacity : Nat
  /-- How many messages of a log are handed out at once. -/
  logChunk : Nat
  /-- The schema of the logs that the ledger starts, and of those it reads. -/
  schemaVersion : Version
  /-- How long a log is valid that the ledger starts. -/
  preambleValidity : Duration
  /-- How many runs are held before idle ones are let go. -/
  maxOpenRuns : Nat
  deriving DecidableEq

namespace Config

/-- The standard settings for a root directory: logs are valid for a week. -/
def rootedAt (root : String) : Config :=
  ⟨root, 1024, 256, RunLedger.schemaVersion, .clamp (604800 * nanosPerSecond), 256⟩

/-- The root directory if none is given. -/
def standardRoot : String := "kiln-data"

/-- The directory of logs and upload records. -/
def runsDirectory (c : Config) : String := joinPath c.root "runs"

/-- The directory of artifacts. -/
def uploadsDirectory (c : Config) : String := joinPath c.root "uploads"

/-- The log of a run. -/
def logPath (c : Config) (run : RunId) : String := joinPath c.runsDirectory (run.text ++ ".log")

/-- The record of an upload, which holds the digest of the artifact. -/
def recordPath (c : Config) (run : RunId) : String := joinPath c.runsDirectory (run.text ++ ".upload")

/-- The artifact with a digest. -/
def artifactPath (c : Config) (key : Digest) : String := joinPath c.uploadsDirectory key.text

/-- The settings as a record. -/
def toJson (c : Config) : Json :=
  .record [("root", .text c.root), ("watch_capacity", .nat c.watchCapacity), ("log_chunk", .nat c.logChunk),
    ("schema_version", c.schemaVersion.toJson), ("preamble_validity", c.preambleValidity.toJson),
    ("max_open_runs", .nat c.maxOpenRuns)]

end Config

end Ledger

end RunLedger
