import RunLedger.Log.Writer

/-!
# Sinks

Where messages go as they are produced. Emitting never fails for the producer: a sink that writes a log drops what it
cannot append.
-/

namespace RunLedger

/-- A destination of messages. -/
inductive Sink where
  /-- Drops everything. -/
  | null
  /-- Keeps everything. -/
  | memory (messages : List Message)
  /-- Appends everything to a log. -/
  | log (writer : LogWriter)

namespace Sink

/-- The sink after one more message. -/
def emit : Sink → Message → Sink
  | .null, _ => .null
  | .memory ms, m => .memory (ms ++ [m])
  | .log w, m => .log (w.append m).1

/-- What a sink keeps. -/
def messages : Sink → List Message
  | .memory ms => ms
  | _ => []

/-- Takes what a sink keeps out of it. -/
def drain : Sink → List Message × Sink
  | .memory ms => (ms, .memory [])
  | s => ([], s)

end Sink

end RunLedger
