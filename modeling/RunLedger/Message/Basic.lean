import RunLedger.Double.Basic
import RunLedger.Identifier.Basic
import RunLedger.Task.Basic
import RunLedger.Time
import RunLedger.Version

/-!
# Messages

A message is an event with the identifier and time it was stamped with. A log opens with a preamble, which says what
schema the log was written with and when it is valid.
-/

namespace RunLedger

/-- The schema of a log and its window of validity. -/
structure Preamble where
  version : Version
  notBefore : Timestamp
  notAfter : Timestamp
  deriving DecidableEq, Repr

/-- A sample of a metric. -/
structure Metric where
  name : String
  value : Double
  tags : List String
  deriving DecidableEq, Repr

/-- A report on a coverage file. -/
structure Coverage where
  format : String
  path : String
  deriving DecidableEq, Repr

/-- How a span of work ended. -/
inductive Outcome where
  | success
  | error
  deriving DecidableEq, Repr, Inhabited

/-- The record of one finished span. -/
structure Op where
  name : OperationId
  /-- The operations around it, outermost first. -/
  ancestors : List OperationId
  outcome : Outcome
  elapsedMs : UInt64
  deriving DecidableEq

/-- What a message reports. -/
inductive Event where
  | preamble (p : Preamble)
  | heartbeat
  | task (t : Task)
  | metric (m : Metric)
  | coverage (c : Coverage)
  | op (o : Op)
  deriving DecidableEq

/-- An identifier and a time. -/
structure Stamp where
  id : MessageId
  time : Timestamp
  deriving DecidableEq, Inhabited

/-- An event as it is logged. -/
structure Message where
  id : MessageId
  time : Timestamp
  event : Event
  deriving DecidableEq

namespace Preamble

/-- The preamble of a log that is valid for a span from now on. -/
def startingAt (version : Version) (now : Timestamp) (validity : Duration) : Preamble :=
  ⟨version, now, (now.add? validity).getD now⟩

/-- Whether a time is inside the window, both ends included. -/
def isValidAt (p : Preamble) (t : Timestamp) : Bool := p.notBefore.le t && t.le p.notAfter

end Preamble

/-- The path of the operation, its own name last. -/
def Op.path (o : Op) : String := OperationId.joinPath (o.ancestors ++ [o.name])

/-- A short name for the kind of an event. -/
def Event.kind : Event → String
  | .preamble _ => "preamble"
  | .heartbeat => "heartbeat"
  | .task _ => "task"
  | .metric _ => "metric"
  | .coverage _ => "coverage"
  | .op _ => "op"

/-- The message that an event becomes under a stamp. -/
def Stamp.message (s : Stamp) (e : Event) : Message := ⟨s.id, s.time, e⟩

/-- The preamble that a message is, if it is one. -/
def Message.preamble? (m : Message) : Option Preamble :=
  match m.event with
  | .preamble p => some p
  | _ => none

end RunLedger
