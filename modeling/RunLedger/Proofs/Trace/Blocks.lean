import RunLedger.Proofs.Trace.Deeds

/-!
# Spans close

A program that is made of spans alone (`Blocks`), one after the other and one in the other, with bodies that may return,
fail or be cut off, and with what follows a span free to pass its end on or to deal with it: whatever the tree, every
span that was entered is closed where it was opened, so a run leaves all stacks as they were.

`Blocks.course` says what such a program comes to, without any stack: its value and the operations that were entered.
The step of the induction is `Pipeline.Neutral.enter`: a body that leaves the stacks as they were leaves the span that
was opened for it on top, where the pop finds it.

* `Blocks.closes`: the value of a run, the stacks, and what the execution pass reports, in which order.
* `Blocks.failure_not_marked`: a guarded part that fails is not reported as failed if its guard was not marked.
-/

namespace RunLedger

/-! ## Programs of spans -/

/-- A program made of spans. A body gives a value, in which what follows sees how the body ended: it may end in the same
way, or go on. -/
inductive Blocks : Type → Type 1 where
  | done {α : Type} (a : α) : Blocks α
  /-- A part that is guarded: it may fail, or be cut off, and it may mark its guard as failed. -/
  | enter {ε β α : Type} (id : String) (body : Blocks (Bool × Exit ε β))
      (next : Except TraceError (Exit ε β) → Blocks α) : Blocks α
  /-- A call of a body, which fails with the body. -/
  | span {ε β α : Type} (id : String) (refused : TraceError → ε) (body : Blocks (Exit ε β))
      (next : Exit ε β → Blocks α) : Blocks α

/-- Operations that were entered one after the other, each with whether it counts as failed and what was entered in
it. -/
inductive Entered where
  | nothing
  | span (id : OperationId) (failed : Bool) (inner later : Entered)

/-- An operation that was entered, with the operations around it, outermost first. -/
structure Visit where
  around : List OperationId
  id : OperationId
  failed : Bool

namespace Visit

def outcome (v : Visit) : Outcome := if v.failed then .error else .success

/-- The report of the operation, without the time it took. -/
def op (v : Visit) : Op := ⟨v.id, v.around, v.outcome, 0⟩

/-- The task of the operation in a state. -/
def task (v : Visit) (state : TaskState) : Task := ⟨OperationId.joinPath (v.around ++ [v.id]), v.id.name, state⟩

end Visit

namespace Entered

/-- The operations in the order in which they were entered. -/
def preorder (around : List OperationId) : Entered → List Visit
  | nothing => []
  | span id failed inner later =>
    ⟨around, id, failed⟩ :: (inner.preorder (around ++ [id]) ++ later.preorder around)

/-- The operations in the order in which they ended. -/
def postorder (around : List OperationId) : Entered → List Visit
  | nothing => []
  | span id failed inner later =>
    inner.postorder (around ++ [id]) ++ ⟨around, id, failed⟩ :: later.postorder around

/-- What is opened and closed, in order. -/
def deeds (around : List OperationId) : Entered → List Deed
  | nothing => []
  | span id failed inner later =>
    .opened around id :: (inner.deeds (around ++ [id]) ++
      .closed around id (if failed then .error else .success) :: later.deeds around)

/-- What the execution pass reports. -/
def events (around : List OperationId) (e : Entered) : List Event := (e.deeds around).flatMap Deed.events

theorem events_span (around : List OperationId) (id : OperationId) (failed : Bool) (inner later : Entered) :
    let v : Visit := ⟨around, id, failed⟩
    (span id failed inner later).events around = .task (v.task .initiated) :: (inner.events (around ++ [id]) ++
      .op v.op :: .task (v.task (Tracer.finalState v.outcome)) :: later.events around) := by
  simp [events, deeds, Deed.events, Visit.task, Visit.op, Visit.outcome]

/-- Operations are reported as they end. -/
theorem ops_events (e : Entered) (around : List OperationId) :
    (e.events around).filterMap Event.op? = (e.postorder around).map Visit.op := by
  induction e generalizing around with
  | nothing => rfl
  | span id failed inner later ihInner ihLater =>
    simp [events_span, postorder, List.filterMap_cons, Event.op?, ihInner, ihLater]

/-- Tasks are reported to begin as their operations are entered, and to end as these end. -/
theorem tasks_events (e : Entered) (around : List OperationId) :
    ((e.events around).filterMap Event.task?).filter (fun t => t.state = .initiated) =
        (e.preorder around).map (fun v => v.task .initiated) ∧
      ((e.events around).filterMap Event.task?).filter (fun t => t.state ≠ .initiated) =
        (e.postorder around).map (fun v => v.task (Tracer.finalState v.outcome)) := by
  induction e generalizing around with
  | nothing => exact ⟨rfl, rfl⟩
  | span id failed inner later ihInner ihLater =>
    have hfinal : ∀ outcome : Outcome, Tracer.finalState outcome ≠ .initiated := by rintro (_ | _) <;> nofun
    simp only [events_span, preorder, postorder, List.filterMap_cons, List.filterMap_append, Event.task?,
      List.filter_cons, List.filter_append, (ihInner _).1, (ihInner _).2, (ihLater _).1, (ihLater _).2]
    simp [Visit.task, hfinal]

end Entered

namespace Blocks

variable {ν : Type}

/-- The pipeline that runs a program on a context. -/
def pipeline (n : Nat) : {α : Type} → Blocks α → Pipeline ν α
  | _, .done a => .done a
  | _, .enter id body next => (Pipeline.enter n id (body.pipeline n)).bind fun r => (next r).pipeline n
  | _, .span id refused body next =>
    (Pipeline.span n id refused (body.pipeline n)).bind fun r => (next r).pipeline n

/-- What a program comes to: its value, and the operations that were entered. The body of a part that cannot be entered
is not done. A guarded part counts as failed if its guard was marked or the part was cut off; a call, if its body did
not return. -/
def course : {α : Type} → Blocks α → α × Entered
  | _, .done a => (a, .nothing)
  | _, .enter id body next =>
    match OperationId.ofText id with
    | .error e => (next (.error (.invalidId e))).course
    | .ok op =>
      let inside := body.course
      let later := (next (.ok inside.1.2)).course
      (later.1, .span op (inside.1.1 || inside.1.2.isPanic) inside.2 later.2)
  | _, .span id refused body next =>
    match OperationId.ofText id with
    | .error e => (next (.failed (refused (.invalidId e)))).course
    | .ok op =>
      let inside := body.course
      let later := (next inside.1).course
      (later.1, .span op inside.1.isFailure inside.2 later.2)

end Blocks

/-! ## Stacks stay as they were -/

namespace Pipeline

variable {ν α β ε : Type} {n : Nat} {deeds deeds' : List OperationId → List Deed}

/-- A pipeline that gives a value and leaves all stacks as they were, wherever it is run, with deeds that depend on
where its context is. -/
def Neutral (n : Nat) (p : Pipeline ν α) (a : α) (deeds : List OperationId → List Deed) : Prop :=
  ∀ s : Tracing ν, ∃ t, s.run p = (a, { s with tracer := t }) ∧ s.tracer.Saw (deeds (s.context n).path) t

theorem neutral_done (a : α) : Neutral n (.done a : Pipeline ν α) a fun _ => [] :=
  fun s => ⟨s.tracer, rfl, .refl _⟩

theorem Neutral.bind {p : Pipeline ν α} {f : α → Pipeline ν β} {a : α} {b : β} (hp : Neutral n p a deeds)
    (hf : Neutral n (f a) b deeds') : Neutral n (p.bind f) b fun around => deeds around ++ deeds' around := by
  intro s
  obtain ⟨t, hrun, hsaw⟩ := hp s
  obtain ⟨t', hrun', hsaw'⟩ := hf { s with tracer := t }
  refine ⟨t', ?_, hsaw.trans hsaw'⟩
  rw [Tracing.run_bind, hrun]
  exact hrun'

theorem Neutral.congr {p : Pipeline ν α} {a : α} (hp : Neutral n p a deeds)
    (h : ∀ around, deeds around = deeds' around) : Neutral n p a deeds' := by
  obtain rfl : deeds = deeds' := funext h
  exact hp

/-- Nothing is done in a span that has no name an operation can have. -/
theorem neutral_enter_of_refused {id : String} {e : IdError} (h : OperationId.ofText id = .error e)
    (body : Pipeline ν (Bool × Exit ε α)) : Neutral n (enter n id body) (.error (.invalidId e)) fun _ => [] := by
  intro s
  have hpush : (s.context n).push (nameOf (s.context n).current?) id s.tracer =
      (.error (.invalidId e), s.context n, s.tracer) := by
    rw [Context.push, if_neg (not_not_intro rfl), h]
  refine ⟨s.tracer, ?_, .refl _⟩
  simp only [enter, Bind.bind, Pipeline.bind, current, push, Tracing.run, Tracing.perform, hpush,
    Tracing.withContext_context]
  rfl

/-- A span around a body that leaves the stacks as they were: it is opened, and closed again. -/
theorem Neutral.enter {id : String} {op : OperationId} {body : Pipeline ν (Bool × Exit ε α)} {marked : Bool}
    {exit : Exit ε α} (hbody : Neutral n body (marked, exit) deeds) (h : OperationId.ofText id = .ok op) :
    Neutral n (enter n id body) (.ok exit) fun around => .opened around op :: (deeds (around ++ [op]) ++
      [.closed around op (if marked || exit.isPanic then .error else .success)]) := by
  intro s
  let c := s.context n
  let parent := nameOf c.current?
  let outcome : Outcome := if marked || exit.isPanic then .error else .success
  have hparent : nameOf c.path.getLast? = parent := by rw [← Context.current?_eq]
  have hanswer : c.place.answer (.push parent id) = .ok (.opened c.path op, ⟨c.base, op :: c.spans.map Span.id⟩) := by
    simp only [Place.answer, Context.path_place, hparent, h, ne_eq, not_true_eq_false, if_false]
    rfl
  obtain ⟨x, t, ha, hpush, hx, hsaw⟩ | ⟨e, ha, -⟩ := c.push_answer parent id s.tracer
  · obtain rfl : op = x.id := by
      cases hanswer.symm.trans ha
      rfl
    -- the body leaves the span on top
    let s₁ : Tracing ν := { s with tracer := t }.withContext n { c with spans := x :: c.spans }
    have hs₁ : s₁.context n = { c with spans := x :: c.spans } := Tracing.context_withContext _ _ _
    obtain ⟨t', hrun, hsaw'⟩ := hbody s₁
    rw [hs₁, Context.path_cons, Tracing.tracer_withContext] at hsaw'
    -- so that the pop finds it there
    obtain ⟨t'', hclosed, hsaw''⟩ := Tracer.saw_closed (hx.mono hsaw'.grown) outcome
    have hnames : x.id.name = id ∧ nameOf x.parent? = parent :=
      ⟨OperationId.name_of_ofText h, by rw [hx.parent, hparent]⟩
    have hpop : Context.pop { c with spans := x :: c.spans } parent id outcome t' = (.ok (), c, t'') := by
      simp only [Context.pop, hnames, and_self, if_true, hclosed]
    have hmake : { s₁ with tracer := t' }.make n (.pop parent id outcome) = (.ok (), { s with tracer := t'' }) := by
      have hc : { s₁ with tracer := t' }.context n = { c with spans := x :: c.spans } := hs₁
      simp only [Tracing.make, hc, Context.call, hpop]
      exact congrArg _ (Tracing.withContext_restored { s with tracer := t } n _ t'')
    refine ⟨t'', ?_, hsaw.trans (hsaw'.trans hsaw'')⟩
    simp only [Pipeline.enter, Bind.bind, Pipeline.bind, current, push, Tracing.run, Tracing.perform, c, parent, hpush]
    change s₁.run (body.bind _) = _
    rw [Tracing.run_bind, hrun]
    change ({ s₁ with tracer := t' }.make n (.pop parent id outcome)).2.run (.done (Except.ok exit)) = _
    rw [hmake]
    rfl
  · cases hanswer.symm.trans ha

theorem neutral_span_of_refused {id : String} {e : IdError} (h : OperationId.ofText id = .error e)
    (refused : TraceError → ε) (body : Pipeline ν (Exit ε α)) :
    Neutral n (span n id refused body) (.failed (refused (.invalidId e))) fun _ => [] := by
  have hbind : Neutral n (span n id refused body) (.failed (refused (.invalidId e))) fun _ => [] ++ [] :=
    (neutral_enter_of_refused h _).bind (neutral_done _)
  exact hbind

/-- A call whose body leaves the stacks as they were counts as failed if the body does not return. -/
theorem Neutral.span {id : String} {op : OperationId} {body : Pipeline ν (Exit ε α)} {exit : Exit ε α}
    (hbody : Neutral n body exit deeds) (h : OperationId.ofText id = .ok op) (refused : TraceError → ε) :
    Neutral n (span n id refused body) exit fun around => .opened around op :: (deeds (around ++ [op]) ++
      [.closed around op (if exit.isFailure then .error else .success)]) := by
  have hmarked : (exit.isFailure || exit.isPanic) = exit.isFailure := by cases exit <;> rfl
  have hbody' : Neutral n (body.bind fun exit => .done (exit.isFailure, exit)) (exit.isFailure, exit) _ :=
    hbody.bind (neutral_done _)
  have hspan : Neutral n (Pipeline.span n id refused body) exit _ := (hbody'.enter h).bind (neutral_done _)
  refine hspan.congr fun around => ?_
  simp [hmarked]

end Pipeline

namespace Blocks

variable {ν α : Type}

/-- A program of spans leaves all stacks as they were, and goes as `course` says. -/
theorem neutral_pipeline (b : Blocks α) (n : Nat) :
    (b.pipeline n : Pipeline ν α).Neutral n b.course.1 fun around => b.course.2.deeds around := by
  induction b with
  | done a => exact Pipeline.neutral_done a
  | enter id body next ihBody ihNext =>
    rw [pipeline, course]
    cases h : OperationId.ofText id with
    | error e => exact (Pipeline.neutral_enter_of_refused h _).bind (ihNext _)
    | ok op =>
      refine ((ihBody.enter h).bind (f := fun r => (next r).pipeline n) (ihNext _)).congr fun around => ?_
      simp [Entered.deeds]
  | span id refused body next ihBody ihNext =>
    rw [pipeline, course]
    cases h : OperationId.ofText id with
    | error e => exact (Pipeline.neutral_span_of_refused h refused _).bind (ihNext _)
    | ok op =>
      refine ((ihBody.span h refused).bind (f := fun r => (next r).pipeline n) (ihNext _)).congr fun around => ?_
      simp [Entered.deeds]

/-- **Spans close.** A program of spans, run in the execution pass on any context: it gives the value that `course` says
and leaves all stacks as they were, and this also holds of every span in it, which is such a program. For each
operation that was entered, and for no other, one report of it and one of the end of its task are made as it ends, with
the outcome that `course` says, and one of the beginning of its task as it is entered. -/
theorem closes (b : Blocks α) (s : Tracing ν) (n : Nat) (hpass : s.tracer.pass = .execution) :
    ∃ t ms, s.run (b.pipeline n) = (b.course.1, { s with tracer := t }) ∧ t.emitted = s.tracer.emitted ++ ms ∧
      let events := ms.map fun m => m.event.untimed
      let around := (s.context n).path
      let entered := b.course.2
      events = entered.events around ∧
      events.filterMap Event.op? = (entered.postorder around).map Visit.op ∧
      (events.filterMap Event.task?).filter (fun t => t.state = .initiated) =
        (entered.preorder around).map (fun v => v.task .initiated) ∧
      (events.filterMap Event.task?).filter (fun t => t.state ≠ .initiated) =
        (entered.postorder around).map fun v => v.task (Tracer.finalState v.outcome) := by
  obtain ⟨t, hrun, hsaw⟩ := b.neutral_pipeline n s
  obtain ⟨ms, hemitted, hevents⟩ := hsaw.executed hpass
  refine ⟨t, ms, hrun, hemitted, hevents, ?_⟩
  rw [hevents]
  exact ⟨Entered.ops_events _ _, Entered.tasks_events _ _⟩

/-- A guarded part that marks its guard, one that is cut off inside another, and a call that goes on behind both. -/
def mixed : Blocks (Exit Unit Unit) :=
  .span "ci" (fun _ => ())
    (.enter "lint" (.done (true, .returned ())) fun (_ : Except TraceError (Exit Unit Unit)) =>
      .enter "test" (.done (false, .panicked)) fun (_ : Except TraceError (Exit Unit Unit)) =>
        .span "a/b" (fun _ => ()) (.done .panicked) fun (_ : Exit Unit Unit) => .done (.returned ()))
    .done

theorem closes_mixed :
    let s : Tracing Unit := .start (.start .execution [] default)
    s.tracer.pass = .execution ∧ ∃ t ms, s.run (mixed.pipeline 0) = (.returned (), { s with tracer := t }) ∧
      t.emitted = ms ∧
        ((ms.map fun m => m.event.untimed).filterMap Event.op?).map (fun o => (o.path, o.outcome)) =
          [("ci/lint", .error), ("ci/test", .error), ("ci", .success)] := by
  intro s
  obtain ⟨t, ms, hrun, hemitted, -, hops, -⟩ := closes mixed s 0 rfl
  refine ⟨rfl, t, ms, hrun, hemitted, ?_⟩
  rw [hops]
  decide

/-- A failure that passes a guard which is not marked is reported as a success. -/
theorem failure_not_marked :
    let b : Blocks (Except TraceError (Exit Unit Unit)) := .enter "a" (.done (false, .failed ())) .done
    let r := (Tracing.start (.start .execution [] default) : Tracing Unit).run (b.pipeline 0)
    r.1 = .ok (.failed ()) ∧ r.2.tracer.emitted.filterMap (fun m => m.event.op?.map Op.outcome) = [.success] :=
  ⟨rfl, rfl⟩

end Blocks

end RunLedger
