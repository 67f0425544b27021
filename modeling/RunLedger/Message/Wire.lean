import RunLedger.Message.Basic
import RunLedger.Wire.Basic

/-!
# Messages in binary form

The payload of a log record: the identifier as a byte string, the time, the number of the event's kind and its fields in
order. A reader looks only at the octets it needs; an identifier of the wrong length, an unknown number of a kind, state
or outcome, or an operation without a proper name is refused.
-/

namespace RunLedger.Wire

/-- A 64-bit number. -/
def u64 (n : UInt64) : Bytes := varint n.toNat

/-- A 32-bit number. -/
def u32 (n : UInt32) : Bytes := varint n.toNat

/-- A 64-bit number. -/
def readWord64 : Reader UInt64 := do return UInt64.ofNat (← readU64)

/-- A 32-bit number. -/
def readWord32 : Reader UInt32 := do return UInt32.ofNat (← readU32)

/-- The octets of a 128-bit identifier with their number in front. -/
def uuid (u : Uuid) : Bytes := blob u.bytes

/-- A 128-bit identifier. -/
def readUuid : Reader Uuid := do
  let bytes ← readBlob
  Reader.ofOption ((Block.ofBytes? 16 bytes).map Uuid.mk)

/-- A reading of the clock. -/
def timestamp (t : Timestamp) : Bytes := u64 t.seconds ++ u32 t.nanos

/-- A reading of the clock. -/
def readTimestamp : Reader Timestamp := do
  let seconds ← readWord64
  let nanos ← readWord32
  return ⟨seconds, nanos⟩

/-- The octets of a double, least significant first. -/
def double (d : Double) : Bytes := Bytes.ofNatLE 8 d.bits.toNat

/-- A double. -/
def readDouble : Reader Double := do
  let bytes ← take 8
  return ⟨UInt64.ofNat (Bytes.toNatLE bytes)⟩

/-- The name of an operation. -/
def operationId (id : OperationId) : Bytes := text id.name

/-- The name of an operation. -/
def readOperationId : Reader OperationId := do
  let name ← readText
  Reader.ofOption (OperationId.ofText name).toOption

/-- The number of a task's state. -/
def stateTag : TaskState → Nat
  | .pending => 0
  | .initiated => 1
  | .completed => 2
  | .error => 3

/-- The task's state with a number. -/
def stateOfTag? : Nat → Option TaskState
  | 0 => some .pending
  | 1 => some .initiated
  | 2 => some .completed
  | 3 => some .error
  | _ => none

/-- The number of an outcome. -/
def outcomeTag : Outcome → Nat
  | .success => 0
  | .error => 1

/-- The outcome with a number. -/
def outcomeOfTag? : Nat → Option Outcome
  | 0 => some .success
  | 1 => some .error
  | _ => none

/-- A preamble. -/
def preamble (p : Preamble) : Bytes :=
  u64 p.version.major ++ u64 p.version.minor ++ u64 p.version.patch ++ timestamp p.notBefore ++ timestamp p.notAfter

/-- A preamble. -/
def readPreamble : Reader Preamble := do
  let major ← readWord64
  let minor ← readWord64
  let patch ← readWord64
  let notBefore ← readTimestamp
  let notAfter ← readTimestamp
  return ⟨⟨major, minor, patch⟩, notBefore, notAfter⟩

/-- A snapshot of a task. -/
def task (t : Task) : Bytes := text t.id ++ text t.description ++ varint (stateTag t.state)

/-- A snapshot of a task. -/
def readTask : Reader Task := do
  let id ← readText
  let description ← readText
  let tag ← readU32
  let state ← Reader.ofOption (stateOfTag? tag)
  return ⟨id, description, state⟩

/-- A sample of a metric. -/
def metric (m : Metric) : Bytes := text m.name ++ double m.value ++ list text m.tags

/-- A sample of a metric. -/
def readMetric : Reader Metric := do
  let name ← readText
  let value ← readDouble
  let tags ← readList readText
  return ⟨name, value, tags⟩

/-- A coverage report. -/
def coverage (c : Coverage) : Bytes := text c.format ++ text c.path

/-- A coverage report. -/
def readCoverage : Reader Coverage := do
  let format ← readText
  let path ← readText
  return ⟨format, path⟩

/-- The record of a span. -/
def op (o : Op) : Bytes :=
  operationId o.name ++ list operationId o.ancestors ++ varint (outcomeTag o.outcome) ++ u64 o.elapsedMs

/-- The record of a span. -/
def readOp : Reader Op := do
  let name ← readOperationId
  let ancestors ← readList readOperationId
  let tag ← readU32
  let outcome ← Reader.ofOption (outcomeOfTag? tag)
  let elapsed ← readWord64
  return ⟨name, ancestors, outcome, elapsed⟩

/-- An event: the number of its kind, then its fields. -/
def event : Event → Bytes
  | .preamble p => varint 0 ++ preamble p
  | .heartbeat => varint 1
  | .task t => varint 2 ++ task t
  | .metric m => varint 3 ++ metric m
  | .coverage c => varint 4 ++ coverage c
  | .op o => varint 5 ++ op o

/-- The fields of the event whose kind has a number. -/
def readEventOf : Nat → Reader Event
  | 0 => do return .preamble (← readPreamble)
  | 1 => Reader.pure .heartbeat
  | 2 => do return .task (← readTask)
  | 3 => do return .metric (← readMetric)
  | 4 => do return .coverage (← readCoverage)
  | 5 => do return .op (← readOp)
  | _ => Reader.fail .badValue

/-- An event. -/
def readEvent : Reader Event := do
  let tag ← readU32
  readEventOf tag

/-- A message. -/
def message (m : Message) : Bytes := uuid m.id.uuid ++ timestamp m.time ++ event m.event

/-- A message. -/
def readMessage : Reader Message := do
  let id ← readUuid
  let time ← readTimestamp
  let e ← readEvent
  return ⟨⟨id⟩, time, e⟩

end RunLedger.Wire
