import RunLedger.Digest
import RunLedger.Identifier.Basic
import RunLedger.Log.Contents

/-!
# Refusals of a ledger

Why a ledger does not do what it is asked to.
-/

namespace RunLedger.Ledger

/-- Why a request is refused. -/
inductive Error where
  /-- The run has no log, or no upload was recorded under it. -/
  | unknownRun (run : RunId)
  /-- A preamble would come after the start of a log. -/
  | misplacedPreamble (run : RunId) (record : Nat)
  /-- An upload does not start by naming its digest. -/
  | missingMetadata
  /-- An upload names its digest again. -/
  | duplicateMetadata
  /-- The text that should write a digest does not. -/
  | invalidChecksum (fault : Digest.Error)
  /-- The uploaded octets have another digest than announced. -/
  | checksumMismatch (expected actual : Digest)
  /-- The log cannot be read. -/
  | log (fault : LogError)
  /-- A message cannot be framed. -/
  | frame (fault : Frame.Error)
  | io (fault : IoError)
  deriving DecidableEq, Repr

/-- The wording of a refusal. -/
def Error.message : Error → String
  | .unknownRun run => "Unknown run: " ++ run.text
  | .misplacedPreamble run record =>
    s!"Preamble at record {record} of run {run.text}; only the first record may be a preamble"
  | .missingMetadata => "Upload must start with a metadata chunk"
  | .duplicateMetadata => "Upload sent a second metadata chunk"
  | .invalidChecksum fault => "Invalid upload checksum: " ++ fault.message
  | .checksumMismatch expected actual => s!"Checksum mismatch: expected {expected.text}, got {actual.text}"
  | .log fault => fault.message
  | .frame fault => "Frame error: " ++ fault.message
  | .io fault => "I/O error: " ++ fault.message

end RunLedger.Ledger
