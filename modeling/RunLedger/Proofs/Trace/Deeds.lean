import RunLedger.Proofs.Identifier.Text
import RunLedger.Proofs.Trace.Nesting

/-!
# Deeds

What a pass leaves behind is a matter of its deeds: which operations were opened and closed, and in which order. The
graph holds the opened ones; the execution pass reports every deed, and the discovery pass the operations that are new
to the graph (`Tracer.Saw`).

What a push or a pop comes to depends on the place of its context alone, that is on the operations around it
(`Place.answer`): not on the pass, and not on other contexts.

* `Tracing.Nested.make_spec`: a push or a pop is answered as its place says, and is what the tracer saw.
* `Tracing.Nested.run`: what the tracer saw of a whole run, in the order of the deeds.
-/

namespace RunLedger

/-- An event without the time that its operation took. -/
def Event.untimed : Event → Event
  | .op o => .op { o with elapsedMs := 0 }
  | e => e

/-- The operation that an event reports. -/
def Event.op? : Event → Option Op
  | .op o => some o
  | _ => none

/-- The task that an event reports. -/
def Event.task? : Event → Option Task
  | .task t => some t
  | _ => none

/-- The path of the innermost of some operations, if there is one. -/
def pathOf (around : List OperationId) : Option String :=
  if around.isEmpty then none else some (OperationId.joinPath around)

/-- What became of an operation that stands in others, outermost first. -/
inductive Deed where
  | opened (around : List OperationId) (id : OperationId)
  | closed (around : List OperationId) (id : OperationId) (outcome : Outcome)
  deriving DecidableEq

namespace Deed

/-- The path of the operation. -/
def path : Deed → String
  | opened around id => OperationId.joinPath (around ++ [id])
  | closed around id _ => OperationId.joinPath (around ++ [id])

/-- The graph with an operation that was opened. -/
def record (g : OpGraph) : Deed → OpGraph
  | opened around id => g.insert (pathOf around) (OperationId.joinPath (around ++ [id])) id
  | closed .. => g

/-- What the execution pass reports. -/
def events : Deed → List Event
  | opened around id => [.task ⟨OperationId.joinPath (around ++ [id]), id.name, .initiated⟩]
  | closed around id outcome =>
    [.op ⟨id, around, outcome, 0⟩,
      .task ⟨OperationId.joinPath (around ++ [id]), id.name, Tracer.finalState outcome⟩]

end Deed

namespace OpGraph

/-- The tasks of the operations, none of them begun, in the order of discovery. -/
def tasks (g : OpGraph) : List Task := g.nodes.entries.map fun e => Task.new e.1 e.2.id.name

theorem tasks_attach {g : OpGraph} {path : String} (h : g.contains path = false) (parent : Option String)
    (id : OperationId) : (g.attach parent path id).tasks = g.tasks ++ [Task.new path id.name] := by
  have hpath : path ∉ g.nodes.entries.map Prod.fst := fun hp => by
    rw [contains_iff.mpr hp] at h
    cases h
  rw [attach]
  split
  · rename_i p n hp
    have hn : g.nodes.get? p = some n := by
      cases parent with
      | none => cases hp
      | some q =>
        simp only [Option.bind_some, Option.map_eq_some_iff] at hp
        obtain ⟨_, hq, he⟩ := hp
        cases he
        exact hq
    let child : OpNode := { n with children := addTo n.children path }
    have hnew : path ∉ (OrderedMap.put p child g.nodes.entries).map Prod.fst := by
      rw [OrderedMap.map_put_of_find Prod.fst hn child rfl]
      exact hpath
    change (OrderedMap.put path _ (OrderedMap.put p child g.nodes.entries)).map _ = g.nodes.entries.map _ ++ _
    rw [OrderedMap.put_of_notMem hnew, List.map_append, OrderedMap.map_put_of_find _ hn child rfl]
    rfl
  · change (OrderedMap.put path _ g.nodes.entries).map _ = g.nodes.entries.map _ ++ _
    rw [OrderedMap.put_of_notMem hpath, List.map_append]
    rfl

end OpGraph

/-! ## What a tracer saw -/

/-- What a tracer comes to by some deeds. -/
structure Tracer.Saw (t : Tracer) (deeds : List Deed) (t' : Tracer) : Prop where
  pass : t'.pass = t.pass
  graph : t'.graph = deeds.foldl Deed.record t.graph
  /-- The execution pass reports every deed. -/
  executed : t.pass = .execution → ∃ ms : List Message, t'.emitted = t.emitted ++ ms ∧
    ms.map (fun m => m.event.untimed) = deeds.flatMap Deed.events
  /-- The discovery pass reports the operations that the graph did not have. -/
  discovered : t.pass = .discovery → ∃ (ms : List Message) (tasks : List Task), t'.emitted = t.emitted ++ ms ∧
    ms.map Message.event = tasks.map .task ∧ t'.graph.tasks = t.graph.tasks ++ tasks

namespace Tracer

variable {t t' t'' : Tracer} {deeds deeds' : List Deed}

theorem Saw.refl (t : Tracer) : t.Saw [] t :=
  ⟨rfl, rfl, fun _ => ⟨[], by simp⟩, fun _ => ⟨[], [], by simp⟩⟩

theorem Saw.trans (h : t.Saw deeds t') (h' : t'.Saw deeds' t'') : t.Saw (deeds ++ deeds') t'' where
  pass := h'.pass.trans h.pass
  graph := by rw [h'.graph, h.graph, List.foldl_append]
  executed hpass := by
    obtain ⟨ms, he, hms⟩ := h.executed hpass
    obtain ⟨ms', he', hms'⟩ := h'.executed (h.pass.trans hpass)
    exact ⟨ms ++ ms', by rw [he', he, List.append_assoc], by rw [List.map_append, hms, hms', List.flatMap_append]⟩
  discovered hpass := by
    obtain ⟨ms, tasks, he, hms, hg⟩ := h.discovered hpass
    obtain ⟨ms', tasks', he', hms', hg'⟩ := h'.discovered (h.pass.trans hpass)
    exact ⟨ms ++ ms', tasks ++ tasks', by rw [he', he, List.append_assoc],
      by rw [List.map_append, hms, hms', List.map_append], by rw [hg', hg, List.append_assoc]⟩

theorem contains_foldl_record {g : OpGraph} {path : String} (h : g.contains path) (deeds : List Deed) :
    (deeds.foldl Deed.record g).contains path := by
  induction deeds generalizing g with
  | nil => exact h
  | cons d deeds ih =>
    cases d with
    | opened around id => exact ih (OpGraph.contains_insert_of_contains h _ _ _)
    | closed around id outcome => exact ih h

theorem Saw.grown (h : t.Saw deeds t') : t.Grown t' :=
  ⟨h.pass, fun path hp => by rw [h.graph]; exact contains_foldl_record hp deeds⟩

/-- What a tracer sees of a span that is opened. -/
theorem saw_opened (t : Tracer) (around : List OperationId) (id : OperationId) :
    ∃ t', t.opened around id = (.ok ⟨OperationId.joinPath (around ++ [id]), id.name, t.pass.openState⟩, t') ∧
      t.Saw [.opened around id] t' := by
  cases hpass : t.pass with
  | execution =>
    simp only [opened, hpass]
    exact ⟨_, rfl, by simp [emit, hpass], rfl, fun _ => ⟨_, rfl, rfl⟩, fun h => by simp [hpass] at h⟩
  | discovery =>
    cases hnew : t.graph.contains (OperationId.joinPath (around ++ [id])) with
    | false =>
      simp only [opened, hpass, hnew]
      refine ⟨_, rfl, by simp [emit, hpass], rfl, fun h => by simp [hpass] at h, fun _ => ⟨_, [_], rfl, rfl, ?_⟩⟩
      simp only [emit, OpGraph.insert, hnew]
      exact OpGraph.tasks_attach hnew _ _
    | true =>
      simp only [opened, hpass, hnew]
      refine ⟨_, rfl, by simp [hpass], rfl, fun h => by simp [hpass] at h, fun _ => ⟨[], [], by simp, rfl, ?_⟩⟩
      simp [OpGraph.insert_of_contains hnew]

/-- What a tracer sees of a span in its place that is closed. -/
theorem saw_closed {x : Span} {around : List OperationId} (h : x.Placed around t) (outcome : Outcome) :
    ∃ t', t.closed x outcome = (.ok (), t') ∧ t.Saw [.closed around x.id outcome] t' := by
  cases hpass : t.pass with
  | discovery =>
    simp only [closed, hpass]
    exact ⟨_, rfl, rfl, rfl, fun h => by simp [hpass] at h, fun _ => ⟨[], [], by simp⟩⟩
  | execution =>
    have htask : x.task = ⟨x.path, x.id.name, .initiated⟩ := by rw [h.task, hpass, Pass.openState]
    have hends : x.task.advance (finalState outcome) = .ok ⟨x.path, x.id.name, finalState outcome⟩ := by
      rw [htask]
      cases outcome <;> rfl
    simp only [closed, hpass, hends]
    refine ⟨_, rfl, by simp [emit, hpass], rfl, fun _ => ⟨_, by simp only [emit, List.append_assoc]; rfl, ?_⟩,
      fun h => by simp [hpass] at h⟩
    simp [Deed.events, Event.untimed, Stamp.message, h.ancestors, ← h.path]

end Tracer

/-! ## Places -/

/-- Where a line of work is: the operations that it inherited, outermost first, and those that it opened, innermost
first. -/
structure Place where
  base : List OperationId
  own : List OperationId
  deriving DecidableEq

/-- A push or a pop. -/
inductive SpanCall where
  | push (parent id : String)
  | pop (parent id : String) (outcome : Outcome)
  deriving DecidableEq

namespace Place

/-- The operations around what is done next, outermost first. -/
def path (p : Place) : List OperationId := p.base ++ p.own.reverse

/-- What a call comes to: a deed and the place afterwards, or why it is refused. -/
def answer (p : Place) : SpanCall → Except TraceError (Deed × Place)
  | .push parent id =>
    if nameOf p.path.getLast? ≠ parent then .error (.stackDiscipline (nameOf p.path.getLast?) parent)
    else
      match OperationId.ofText id with
      | .error e => .error (.invalidId e)
      | .ok op => .ok (.opened p.path op, { p with own := op :: p.own })
  | .pop parent id outcome =>
    match p.own with
    | [] => .error (.stackDiscipline "" id)
    | top :: below =>
      let outside : Place := { p with own := below }
      if top.name = id ∧ nameOf outside.path.getLast? = parent then .ok (.closed outside.path top outcome, outside)
      else .error (.stackDiscipline top.name id)

end Place

namespace Context

variable {c : Context} {t : Tracer}

/-- Where a context is. -/
def place (c : Context) : Place := ⟨c.base, c.spans.map Span.id⟩

theorem path_place (c : Context) : c.place.path = c.path := rfl

/-- Spans are opened in the last operation of the path. -/
theorem current?_eq (c : Context) : c.current? = c.path.getLast? := by
  rw [current?, path]
  cases c.spans <;> simp

/-- The path in an operation that was opened. -/
theorem path_cons (c : Context) (x : Span) : (Context.mk c.base (x :: c.spans)).path = c.path ++ [x.id] := by
  simp [path]

/-- Does what a call says. -/
def call (c : Context) : SpanCall → Tracer → Except TraceError Unit × Context × Tracer
  | .push parent id => c.push parent id
  | .pop parent id outcome => c.pop parent id outcome

/-- The span on top is in its place. -/
def TopPlaced (c : Context) (t : Tracer) : Prop :=
  ∀ top below, c.spans = top :: below → top.Placed (Context.mk c.base below).path t

theorem Nested.topPlaced (h : c.Nested t) : c.TopPlaced t := fun top below => h [] top below

/-- What a push does, by what the place of the context says to it. -/
theorem push_answer (c : Context) (parent id : String) (t : Tracer) :
    (∃ x t', c.place.answer (.push parent id) = .ok (.opened c.path x.id, ⟨c.base, x.id :: c.spans.map Span.id⟩) ∧
      c.push parent id t = (.ok (), { c with spans := x :: c.spans }, t') ∧ x.Placed c.path t' ∧
      t.Saw [.opened c.path x.id] t') ∨
    ∃ e, c.place.answer (.push parent id) = .error e ∧ c.push parent id t = (.error e, c, t) := by
  by_cases hparent : nameOf c.path.getLast? = parent
  · cases hid : OperationId.ofText id with
    | error e =>
      refine .inr ⟨.invalidId e, ?_, ?_⟩
      · simp only [Place.answer, path_place, hparent, hid, ne_eq, not_true_eq_false, if_false]
      · simp only [push, current?_eq, hparent, hid, ne_eq, not_true_eq_false, if_false]
    | ok op =>
      obtain ⟨t', ho, hsaw⟩ := t.saw_opened c.path op
      let path := OperationId.joinPath (c.path ++ [op])
      let x : Span := ⟨c.path.getLast?, op, path, c.path, t'.clock.time, ⟨path, op.name, t.pass.openState⟩⟩
      have hfound : t'.graph.contains path := by
        rw [hsaw.graph]
        exact OpGraph.contains_insert t.graph _ _ _
      refine .inl ⟨x, t', ?_, ?_, ⟨rfl, rfl, rfl, by rw [hsaw.pass], hfound⟩, hsaw⟩
      · simp only [Place.answer, path_place, hparent, hid, ne_eq, not_true_eq_false, if_false]
        rfl
      · simp only [push, current?_eq, hparent, hid, ho, ne_eq, not_true_eq_false, if_false]
        rfl
  · exact .inr ⟨.stackDiscipline (nameOf c.path.getLast?) parent, if_pos hparent,
      by rw [push, current?_eq]; exact if_pos hparent⟩

/-- What a pop does, by what the place of the context says to it. -/
theorem pop_answer (h : c.TopPlaced t) (parent id : String) (outcome : Outcome) :
    (∃ top below t', c.spans = top :: below ∧ c.place.answer (.pop parent id outcome) =
        .ok (.closed (Context.mk c.base below).path top.id outcome, ⟨c.base, below.map Span.id⟩) ∧
      c.pop parent id outcome t = (.ok (), { c with spans := below }, t') ∧
      t.Saw [.closed (Context.mk c.base below).path top.id outcome] t') ∨
    ∃ e, c.place.answer (.pop parent id outcome) = .error e ∧ c.pop parent id outcome t = (.error e, c, t) := by
  cases hs : c.spans with
  | nil => exact .inr ⟨.stackDiscipline "" id, by simp [place, Place.answer, hs], by simp [pop, hs]⟩
  | cons top below =>
    have hplaced := h top below hs
    have hplace : c.place = ⟨c.base, top.id :: below.map Span.id⟩ := by rw [place, hs]; rfl
    by_cases hnames : top.id.name = id ∧ nameOf (Context.mk c.base below).path.getLast? = parent
    · obtain ⟨t', hclosed, hsaw⟩ := Tracer.saw_closed hplaced outcome
      refine .inl ⟨top, below, t', rfl, ?_, ?_, hsaw⟩
      · rw [hplace]
        exact if_pos hnames
      · simp only [pop, hs, hplaced.parent, hnames, and_self, if_true, hclosed]
    · refine .inr ⟨.stackDiscipline top.id.name id, ?_, ?_⟩
      · rw [hplace]
        exact if_neg hnames
      · simp only [pop, hs, hplaced.parent]
        exact if_neg hnames

end Context

/-! ## Passes -/

/-- The step that a call on a context is. -/
def SpanCall.step (n : Nat) : SpanCall → TraceStep
  | .push parent id => .push n parent id
  | .pop parent id outcome => .pop n parent id outcome

namespace Tracing

variable {ν α : Type} {s : Tracing ν}

/-- Makes a call on a context. -/
def make (s : Tracing ν) (n : Nat) (a : SpanCall) : Except TraceError Unit × Tracing ν :=
  let r := (s.context n).call a s.tracer
  (r.1, { s with tracer := r.2.2 }.withContext n r.2.1)

theorem perform_push (s : Tracing ν) (n : Nat) (parent id : String) :
    s.perform (.push n parent id) = s.make n (.push parent id) := rfl

theorem perform_pop (s : Tracing ν) (n : Nat) (parent id : String) (outcome : Outcome) :
    s.perform (.pop n parent id outcome) = s.make n (.pop parent id outcome) := rfl

/-- The deed of a step: the span that a push put on the stack of its context, or that a pop took from there. -/
def deedsOf (s : Tracing ν) : TraceStep → List Deed
  | .push n parent id =>
    match (s.make n (.push parent id)).1, ((s.make n (.push parent id)).2.context n).spans with
    | .ok (), x :: _ => [.opened x.ancestors x.id]
    | _, _ => []
  | .pop n parent id outcome =>
    match (s.make n (.pop parent id outcome)).1, (s.context n).spans with
    | .ok (), x :: _ => [.closed x.ancestors x.id outcome]
    | _, _ => []
  | _ => []

/-- The deeds of a run, in order. -/
def deeds (s : Tracing ν) : Pipeline ν α → List Deed
  | .done _ => []
  | .step op next => s.deedsOf op ++ (s.perform op).2.deeds (next (s.perform op).1)
  | .note n label next => (s.noted n label).deeds next

/-- Where the contexts are, in the order of their numbers. -/
def places (s : Tracing ν) : List Place := (s.root :: s.forks).map Context.place

/-- The number of the context that a number stands for. -/
def slot (s : Tracing ν) (n : Nat) : Nat := if n ≤ s.forks.length then n else 0

theorem context_eq (s : Tracing ν) (n : Nat) : (s.root :: s.forks)[s.slot n]? = some (s.context n) := by
  by_cases hn : n ≤ s.forks.length
  · rw [slot, if_pos hn, context]
    have hlt : n < (s.root :: s.forks).length := Nat.lt_succ_of_le hn
    rw [List.getElem?_eq_getElem hlt, Option.getD_some]
  · have hout : (s.root :: s.forks).length ≤ n := Nat.lt_of_not_le hn
    rw [slot, if_neg hn, context, List.getElem?_eq_none hout]
    rfl

theorem place_eq (s : Tracing ν) (n : Nat) : s.places[s.slot n]? = some (s.context n).place := by
  rw [places, List.getElem?_map, context_eq]
  rfl

theorem contexts_withContext (s : Tracing ν) (n : Nat) (c : Context) :
    (s.withContext n c).root :: (s.withContext n c).forks = (s.root :: s.forks).set (s.slot n) c := by
  cases n with
  | zero => simp [withContext, slot]
  | succ k =>
    by_cases hk : k + 1 ≤ s.forks.length
    · rw [withContext, if_pos ⟨Nat.succ_pos k, hk⟩, slot, if_pos hk]
      rfl
    · rw [withContext, if_neg fun h => hk h.2, slot, if_neg hk]
      rfl

theorem places_withContext (s : Tracing ν) (n : Nat) (c : Context) :
    (s.withContext n c).places = s.places.set (s.slot n) c.place := by
  rw [places, contexts_withContext, List.map_set, places]

theorem places_fork (s : Tracing ν) (n : Nat) :
    (s.perform (.fork n)).2.places = s.places ++ [⟨(s.context n).place.path, []⟩] := by
  simp only [places, perform, Context.path_place, ← List.cons_append, List.map_append]
  rfl

/-- A context that was put somewhere is found there. -/
theorem context_withContext (s : Tracing ν) (n : Nat) (c : Context) : (s.withContext n c).context n = c := by
  have hslot : (s.withContext n c).slot n = s.slot n := by
    rw [slot, slot, withContext]
    split <;> simp
  have hlt : s.slot n < (s.root :: s.forks).length := (List.getElem?_eq_some_iff.mp (s.context_eq n)).1
  have h := (s.withContext n c).context_eq n
  rw [contexts_withContext, hslot, List.getElem?_set_self hlt] at h
  exact (Option.some.inj h).symm

/-- A context that was changed and then put back as it was is as if nothing had happened to it. -/
theorem withContext_restored (s : Tracing ν) (n : Nat) (c : Context) (t : Tracer) :
    { s.withContext n c with tracer := t }.withContext n (s.context n) = { s with tracer := t } := by
  have hback := withContext_context { s with tracer := t } n
  by_cases h : 0 < n ∧ n ≤ s.forks.length
  · rw [withContext, if_pos h] at hback
    simp only [withContext, if_pos h, List.length_set, List.set_set]
    exact hback
  · rw [withContext, if_neg h] at hback
    simp only [withContext, if_neg h]
    exact hback

/-- What a call does, by what the place of its context says to it. -/
theorem Nested.make_spec (h : s.Nested) (n : Nat) (a : SpanCall) :
    (∃ d p, (s.context n).place.answer a = .ok (d, p) ∧ (s.make n a).1 = .ok () ∧
      (s.make n a).2.places = s.places.set (s.slot n) p ∧ s.deedsOf (a.step n) = [d] ∧
      s.tracer.Saw [d] (s.make n a).2.tracer) ∨
    ∃ e, (s.context n).place.answer a = .error e ∧ s.make n a = (.error e, s) ∧ s.deedsOf (a.step n) = [] := by
  have htop : (s.context n).TopPlaced s.tracer := (h _ (s.context_mem n)).topPlaced
  cases a with
  | push parent id =>
    obtain ⟨x, t', ha, hpush, hx, hsaw⟩ | ⟨e, ha, hpush⟩ := (s.context n).push_answer parent id s.tracer
    · refine .inl ⟨_, _, ha, ?_⟩
      simp only [make, Context.call, SpanCall.step, deedsOf, hpush, context_withContext, places_withContext,
        tracer_withContext, hx.ancestors, true_and]
      exact ⟨rfl, hsaw⟩
    · refine .inr ⟨e, ha, ?_⟩
      simp only [make, Context.call, SpanCall.step, deedsOf, hpush, withContext_context, and_self]
  | pop parent id outcome =>
    obtain ⟨top, below, t', hs, ha, hpop, hsaw⟩ | ⟨e, ha, hpop⟩ := Context.pop_answer htop parent id outcome
    · refine .inl ⟨_, _, ha, ?_⟩
      simp only [make, Context.call, SpanCall.step, deedsOf, hpop, hs, places_withContext,
        tracer_withContext, (htop top below hs).ancestors, true_and]
      exact ⟨rfl, hsaw⟩
    · refine .inr ⟨e, ha, ?_⟩
      simp only [make, Context.call, SpanCall.step, deedsOf, hpop, withContext_context, and_self]

theorem Nested.make (h : s.Nested) (n : Nat) (a : SpanCall) : (s.make n a).2.Nested := by
  cases a with
  | push parent id => exact h.perform (.push n parent id)
  | pop parent id outcome => exact h.perform (.pop n parent id outcome)

theorem Nested.make_saw (h : s.Nested) (n : Nat) (a : SpanCall) :
    s.tracer.Saw (s.deedsOf (a.step n)) (s.make n a).2.tracer := by
  obtain ⟨d, p, -, -, -, hd, hsaw⟩ | ⟨e, -, hm, hd⟩ := h.make_spec n a
  · rw [hd]
    exact hsaw
  · rw [hd, hm]
    exact .refl _

/-- What a tracer sees of a step are its deeds. -/
theorem Nested.perform_saw (h : s.Nested) (step : TraceStep) :
    s.tracer.Saw (s.deedsOf step) (s.perform step).2.tracer := by
  cases step with
  | push n parent id =>
    rw [perform_push]
    exact h.make_saw n (.push parent id)
  | pop n parent id outcome =>
    rw [perform_pop]
    exact h.make_saw n (.pop parent id outcome)
  | fork n => exact .refl _
  | current n => exact .refl _
  | analysing => exact .refl _

/-- What a tracer sees of a run are its deeds, in order; all stacks stay nested. -/
theorem Nested.run (h : s.Nested) (p : Pipeline ν α) :
    (s.run p).2.Nested ∧ s.tracer.Saw (s.deeds p) (s.run p).2.tracer := by
  induction p generalizing s with
  | done a => exact ⟨h, .refl _⟩
  | step op next ih =>
    obtain ⟨hnested, hsaw⟩ := ih _ (h.perform op)
    exact ⟨hnested, (h.perform_saw op).trans hsaw⟩
  | note n label next ih => exact ih (s := s.noted n label) h

end Tracing

end RunLedger
