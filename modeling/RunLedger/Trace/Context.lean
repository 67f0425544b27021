import RunLedger.Message.Clock
import RunLedger.Trace.Graph

/-!
# Tracing contexts

A pipeline runs twice: the discovery pass learns which operations it has, the execution pass does them. The spans that
are open form the stack of a context; a context that was forked off another starts with an empty stack under the path
that the other had. Pushes name the operation they happen in and pops the operation on top, so that spans nest; anything
else is refused and changes nothing.

What contexts of one pass share is the `Tracer`: the pass, the graph of operations and the events.

* `fork_path`: a forked context is where the other was.
-/

namespace RunLedger

/-- A run of a pipeline. -/
inductive Pass where
  /-- Learns the operations. -/
  | discovery
  /-- Does them. -/
  | execution
  deriving DecidableEq, Repr, Inhabited

/-- Why a span could not be opened or closed. -/
inductive TraceError where
  /-- It does not fit the stack. -/
  | stackDiscipline (expected found : String)
  /-- The name is none of an operation. -/
  | invalidId (fault : IdError)
  /-- The task of the span does not allow it. -/
  | lifecycle (fault : TaskState.TransitionError)
  deriving DecidableEq, Repr

/-- The wording of a refusal. -/
def TraceError.message : TraceError → String
  | .stackDiscipline expected found =>
    "Stack discipline violation: expected " ++ Text.Quoted.text expected ++ ", found " ++ Text.Quoted.text found
  | .invalidId fault => "Invalid operation id: " ++ fault.message
  | .lifecycle fault => fault.message

/-- An open operation. -/
structure Span where
  /-- The operation it was opened in. -/
  parent? : Option OperationId
  id : OperationId
  /-- The path, which also is that of its task. -/
  path : String
  /-- The operations around it, outermost first. -/
  ancestors : List OperationId
  startedAt : Timestamp
  task : Task
  deriving DecidableEq

/-- Where a line of work is: the path it inherited and its open spans, innermost first. -/
structure Context where
  base : List OperationId
  spans : List Span
  deriving DecidableEq

/-- The name of an operation, or nothing. -/
def nameOf (id : Option OperationId) : String := id.elim "" OperationId.name

namespace Context

/-- A context outside all operations. -/
def root : Context := ⟨[], []⟩

instance : Inhabited Context := ⟨root⟩

/-- The operations around what is done next, outermost first. -/
def path (c : Context) : List OperationId := c.base ++ (c.spans.map Span.id).reverse

/-- The operation that spans are opened in. -/
def current? (c : Context) : Option OperationId := (c.spans.head?.map Span.id).or c.base.getLast?

/-- A context for work that goes on beside this one. -/
def fork (c : Context) : Context := ⟨c.path, []⟩

@[simp] theorem fork_path (c : Context) : c.fork.path = c.path := by simp [fork, path]

end Context

/-- What the contexts of a pass share. -/
structure Tracer where
  pass : Pass
  graph : OpGraph
  /-- The messages so far, in order. -/
  emitted : List Message
  clock : Clock

namespace Tracer

/-- A pass that has not begun, after messages of an earlier one. -/
def start (pass : Pass) (emitted : List Message) (clock : Clock) : Tracer := ⟨pass, .empty, emitted, clock⟩

/-- The tracer after one more event. -/
def emit (t : Tracer) (e : Event) : Tracer :=
  { t with emitted := t.emitted ++ [t.clock.stamp.message e], clock := t.clock.next }

/-- Records an operation. The discovery pass announces its task if it is new, the execution pass starts the task. Gives
the task as the span keeps it. -/
def opened (t : Tracer) (around : List OperationId) (id : OperationId) : Except TraceError Task × Tracer :=
  let path := OperationId.joinPath (around ++ [id])
  let parent := if around.isEmpty then none else some (OperationId.joinPath around)
  let isNew := !t.graph.contains path
  let t := { t with graph := t.graph.insert parent path id }
  let task := Task.new path id.name
  match t.pass with
  | .discovery => (.ok task, if isNew then t.emit (.task task) else t)
  | .execution =>
    match task.advance .initiated with
    | .ok task => (.ok task, t.emit (.task task))
    | .error e => (.error (.lifecycle e), t)

/-- Milliseconds since a span was opened. -/
def elapsed (t : Tracer) (s : Span) : UInt64 :=
  UInt64.ofNat (t.clock.time.asMillis.toNat - s.startedAt.asMillis.toNat)

/-- The state of the task of a span that ended. -/
def finalState : Outcome → TaskState
  | .success => .completed
  | .error => .error

/-- Reports the end of a span and of its task, in the execution pass. -/
def closed (t : Tracer) (s : Span) (outcome : Outcome) : Except TraceError Unit × Tracer :=
  match t.pass with
  | .discovery => (.ok (), t)
  | .execution =>
    let t := t.emit (.op ⟨s.id, s.ancestors, outcome, t.elapsed s⟩)
    match s.task.advance (finalState outcome) with
    | .ok task => (.ok (), t.emit (.task task))
    | .error e => (.error (.lifecycle e), t)

end Tracer

namespace Context

/-- Opens a span in the operation with the given name. -/
def push (c : Context) (parent id : String) (t : Tracer) : Except TraceError Unit × Context × Tracer :=
  let expected := nameOf c.current?
  if expected ≠ parent then (.error (.stackDiscipline expected parent), c, t)
  else
    match OperationId.ofText id with
    | .error e => (.error (.invalidId e), c, t)
    | .ok id =>
      match t.opened c.path id with
      | (.error e, t) => (.error e, c, t)
      | (.ok task, t) =>
        let path := OperationId.joinPath (c.path ++ [id])
        (.ok (), { c with spans := ⟨c.path.getLast?, id, path, c.path, t.clock.time, task⟩ :: c.spans }, t)

/-- Closes the span on top, which must have the given name and parent. -/
def pop (c : Context) (parent id : String) (outcome : Outcome) (t : Tracer) :
    Except TraceError Unit × Context × Tracer :=
  match c.spans with
  | [] => (.error (.stackDiscipline "" id), c, t)
  | top :: rest =>
    if top.id.name = id ∧ nameOf top.parent? = parent then
      let (r, t) := t.closed top outcome
      (r, { c with spans := rest }, t)
    else (.error (.stackDiscipline top.id.name id), c, t)

end Context

end RunLedger
