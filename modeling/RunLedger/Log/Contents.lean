import RunLedger.Log.Cursor
import RunLedger.Storage.Error

/-!
# Logs

A log opens with a preamble. `readLog` reads every record that decodes and checks the preamble against the schema that
the reader knows; a torn tail is no fault.
-/

namespace RunLedger

/-- The schema that this library writes. -/
def schemaVersion : Version := ⟨1, 0, 0⟩

/-- Why a log cannot be written or read. -/
inductive LogError where
  | io (e : IoError)
  | frame (e : Frame.Error)
  /-- The first record is absent or no preamble. -/
  | missingPreamble
  /-- The log was written with a schema that the reader does not know. -/
  | incompatibleVersion (found reader : Version)
  deriving DecidableEq, Repr

/-- The wording of a fault. -/
def LogError.message : LogError → String
  | .io e => "I/O error: " ++ e.message
  | .frame e => "Frame error: " ++ e.message
  | .missingPreamble => "Log does not start with a preamble"
  | .incompatibleVersion found reader => s!"Log schema {found.text} cannot be read by {reader.text}"

/-- A log that was read: its preamble, and all messages with that of the preamble first. -/
structure LogContents where
  preamble : Preamble
  read : ReadOutcome

/-- The preamble that a list of messages opens with, if a reader knows its schema. -/
def openingPreamble (messages : List Message) (reader : Version) : Except LogError Preamble :=
  match messages.head?.bind Message.preamble? with
  | none => .error .missingPreamble
  | some p => if reader.canRead p.version then .ok p else .error (.incompatibleVersion p.version reader)

/-- Reads a log as a reader of the given schema. -/
def readLog (log : Bytes) (reader : Version) : Except LogError LogContents :=
  let read := readAll log
  (openingPreamble read.messages reader).map fun p => ⟨p, read⟩

end RunLedger
