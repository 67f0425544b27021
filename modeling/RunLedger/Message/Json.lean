import RunLedger.Json.Printer
import RunLedger.Json.Reader
import RunLedger.Message.Basic

/-!
# Messages as JSON

Records are objects with their fields in order, kinds of events and states are names in capitals, and identifiers are
hyphenated. `Message.ofJson?` reads any order of fields, ignores fields it does not know, and takes arrays of the fields
as well; a field that is missing, repeated or of the wrong kind is refused.
-/

namespace RunLedger

/-- A version as a record. -/
def Version.toJson (v : Version) : Json :=
  .record [("major", .nat v.major.toNat), ("minor", .nat v.minor.toNat), ("patch", .nat v.patch.toNat)]

/-- The version that a record holds. -/
def Version.ofJson? (j : Json) : Option Version := do
  match ← j.fields? ["major", "minor", "patch"] with
  | [major, minor, patch] => return ⟨← major.toU64?, ← minor.toU64?, ← patch.toU64?⟩
  | _ => none

/-- A reading of the clock as a record. -/
def Timestamp.toJson (t : Timestamp) : Json :=
  .record [("seconds", .nat t.seconds.toNat), ("nanos", .nat t.nanos.toNat)]

/-- The reading of the clock that a record holds. -/
def Timestamp.ofJson? (j : Json) : Option Timestamp := do
  match ← j.fields? ["seconds", "nanos"] with
  | [seconds, nanos] => return ⟨← seconds.toU64?, ← nanos.toU32?⟩
  | _ => none

/-- The name of an operation as a text. -/
def OperationId.toJson (id : OperationId) : Json := .text id.name

/-- The operation that a text names. -/
def OperationId.ofJson? (j : Json) : Option OperationId := do
  (OperationId.ofText (← j.toText?)).toOption

/-- The name of a task's state. -/
def TaskState.toJson : TaskState → Json
  | .pending => .text "Pending"
  | .initiated => .text "Initiated"
  | .completed => .text "Completed"
  | .error => .text "Error"

/-- The task's state with a name. -/
def TaskState.ofJson? (j : Json) : Option TaskState := do
  match ← j.unitVariant? with
  | "Pending" => some .pending
  | "Initiated" => some .initiated
  | "Completed" => some .completed
  | "Error" => some .error
  | _ => none

/-- The name of an outcome. -/
def Outcome.toJson : Outcome → Json
  | .success => .text "Success"
  | .error => .text "Error"

/-- The outcome with a name. -/
def Outcome.ofJson? (j : Json) : Option Outcome := do
  match ← j.unitVariant? with
  | "Success" => some .success
  | "Error" => some .error
  | _ => none

/-- A preamble as a record. -/
def Preamble.toJson (p : Preamble) : Json :=
  .record [("version", p.version.toJson), ("not_before", p.notBefore.toJson), ("not_after", p.notAfter.toJson)]

/-- The preamble that a record holds. -/
def Preamble.ofJson? (j : Json) : Option Preamble := do
  match ← j.fields? ["version", "not_before", "not_after"] with
  | [version, notBefore, notAfter] =>
    return ⟨← Version.ofJson? version, ← Timestamp.ofJson? notBefore, ← Timestamp.ofJson? notAfter⟩
  | _ => none

/-- A snapshot of a task as a record. -/
def Task.toJson (t : Task) : Json :=
  .record [("id", .text t.id), ("description", .text t.description), ("state", t.state.toJson)]

/-- The snapshot of a task that a record holds. -/
def Task.ofJson? (j : Json) : Option Task := do
  match ← j.fields? ["id", "description", "state"] with
  | [id, description, state] => return ⟨← id.toText?, ← description.toText?, ← TaskState.ofJson? state⟩
  | _ => none

/-- A sample of a metric as a record. -/
def Metric.toJson (m : Metric) : Json :=
  .record [("name", .text m.name), ("value", .double m.value), ("tags", .array (m.tags.map .text))]

/-- The sample of a metric that a record holds. -/
def Metric.ofJson? (j : Json) : Option Metric := do
  match ← j.fields? ["name", "value", "tags"] with
  | [name, value, tags] => return ⟨← name.toText?, ← value.toDouble?, ← (← tags.toList?).mapM Json.toText?⟩
  | _ => none

/-- A coverage report as a record. -/
def Coverage.toJson (c : Coverage) : Json := .record [("format", .text c.format), ("path", .text c.path)]

/-- The coverage report that a record holds. -/
def Coverage.ofJson? (j : Json) : Option Coverage := do
  match ← j.fields? ["format", "path"] with
  | [format, path] => return ⟨← format.toText?, ← path.toText?⟩
  | _ => none

/-- The record of a span. -/
def Op.toJson (o : Op) : Json :=
  .record [("name", o.name.toJson), ("ancestors", .array (o.ancestors.map OperationId.toJson)),
    ("outcome", o.outcome.toJson), ("elapsed_ms", .nat o.elapsedMs.toNat)]

/-- The span that a record holds. -/
def Op.ofJson? (j : Json) : Option Op := do
  match ← j.fields? ["name", "ancestors", "outcome", "elapsed_ms"] with
  | [name, ancestors, outcome, elapsed] =>
    return ⟨← OperationId.ofJson? name, ← (← ancestors.toList?).mapM OperationId.ofJson?, ← Outcome.ofJson? outcome,
      ← elapsed.toU64?⟩
  | _ => none

/-- An event: its kind alone, or its kind with its record. -/
def Event.toJson : Event → Json
  | .preamble p => .record [("Preamble", p.toJson)]
  | .heartbeat => .text "Heartbeat"
  | .task t => .record [("Task", t.toJson)]
  | .metric m => .record [("Metric", m.toJson)]
  | .coverage c => .record [("Coverage", c.toJson)]
  | .op o => .record [("Op", o.toJson)]

/-- The event of a kind that a value holds. -/
def Event.ofJson? (j : Json) : Option Event := do
  match ← j.variant? with
  | ("Heartbeat", none) => some .heartbeat
  | ("Heartbeat", some .null) => some .heartbeat
  | ("Preamble", some held) => (Preamble.ofJson? held).map .preamble
  | ("Task", some held) => (Task.ofJson? held).map .task
  | ("Metric", some held) => (Metric.ofJson? held).map .metric
  | ("Coverage", some held) => (Coverage.ofJson? held).map .coverage
  | ("Op", some held) => (Op.ofJson? held).map .op
  | _ => none

/-- A message as a record. -/
def Message.toJson (m : Message) : Json :=
  .record [("id", .text m.id.uuid.text), ("ts", m.time.toJson), ("event", m.event.toJson)]

/-- The message that a record holds. -/
def Message.ofJson? (j : Json) : Option Message := do
  match ← j.fields? ["id", "ts", "event"] with
  | [id, time, event] =>
    return ⟨⟨← (Uuid.ofText (← id.toText?)).toOption⟩, ← Timestamp.ofJson? time, ← Event.ofJson? event⟩
  | _ => none

/-- The line that a message is printed as. -/
def Message.line (m : Message) : String := m.toJson.print

/-- The message that a line writes. -/
def Message.ofLine? (s : String) : Option Message := do
  Message.ofJson? (← Json.parse? s)

end RunLedger
