import RunLedger.Trace.Pipeline

/-!
# Spans nest

Whatever is done with the contexts of a pass, refused or not: the spans of each context know their places
(`Context.Nested`), the tasks of open spans have begun, so that no push or pop fails for the state of a task, and every
open span is in the graph. What a push and a pop can do is said once each (`Context.push_spec`,
`Context.Nested.pop_spec`); a step of a pass keeps all stacks nested (`Tracing.Nested.call`), and so does every run
(`Tracing.Nested.after`).

* `Tracing.nesting`: the shape of all stacks, when pushes and pops succeed, and what they emit.
-/

namespace RunLedger

/-- Whether a text can be the name of an operation. -/
def IsOperationName (name : String) : Prop := name ≠ "" ∧ separator ∉ name.toList

/-- A text that can be the name of an operation is the name of one, and no other text is. -/
theorem OperationId.ofText_cases (text : String) :
    (IsOperationName text ∧ ∃ id, ofText text = .ok id ∧ id.name = text) ∨
      (¬IsOperationName text ∧ ∃ e, ofText text = .error e) := by
  by_cases he : text = ""
  · exact .inr ⟨fun h => h.1 he, _, dif_pos he⟩
  by_cases hs : separator ∈ text.toList
  · exact .inr ⟨fun h => h.2 hs, _, by rw [ofText, dif_neg he, dif_pos hs]⟩
  · exact .inl ⟨⟨he, hs⟩, ⟨text, he, hs⟩, by rw [ofText, dif_neg he, dif_neg hs], rfl⟩

/-- How far the task of an open span has come. -/
def Pass.openState : Pass → TaskState
  | .discovery => .pending
  | .execution => .initiated

namespace OpGraph

theorem contains_insert (g : OpGraph) (parent : Option String) (path : String) (id : OperationId) :
    (g.insert parent path id).contains path := by
  rw [contains_iff, paths_insert]
  split
  · assumption
  · simp

theorem contains_insert_of_contains {g : OpGraph} {p : String} (h : g.contains p) (parent : Option String)
    (path : String) (id : OperationId) : (g.insert parent path id).contains p := by
  rw [contains_iff] at h ⊢
  rw [paths_insert]
  split
  · exact h
  · exact List.mem_append_left _ h

end OpGraph

/-! ## What tracers do -/

/-- A tracer and what became of it: the pass goes on and keeps what it has found. -/
structure Tracer.Grown (t t' : Tracer) : Prop where
  pass : t'.pass = t.pass
  graph : ∀ path, t.graph.contains path → t'.graph.contains path

namespace Tracer

theorem Grown.refl (t : Tracer) : t.Grown t := ⟨rfl, fun _ h => h⟩

/-- What the tracer does when a span is opened: it finds the operation and starts its task, which it reports. -/
theorem opened_spec (t : Tracer) (around : List OperationId) (id : OperationId) :
    let path := OperationId.joinPath (around ++ [id])
    ∃ t', t.opened around id = (.ok ⟨path, id.name, t.pass.openState⟩, t') ∧ t.Grown t' ∧ t'.graph.contains path ∧
      (t.pass = .execution →
        t'.emitted = t.emitted ++ [t.clock.stamp.message (.task ⟨path, id.name, .initiated⟩)]) := by
  intro path
  let parent := if around.isEmpty then none else some (OperationId.joinPath around)
  have hpath := OpGraph.contains_insert t.graph parent path id
  have hkept : ∀ p, t.graph.contains p → (t.graph.insert parent path id).contains p := fun p h =>
    OpGraph.contains_insert_of_contains h parent path id
  cases hpass : t.pass with
  | discovery =>
    simp only [opened, hpass]
    split
    · exact ⟨_, rfl, ⟨by simp [emit, hpass], hkept⟩, hpath, nofun⟩
    · exact ⟨_, rfl, ⟨by simp [hpass], hkept⟩, hpath, nofun⟩
  | execution =>
    simp only [opened, hpass]
    exact ⟨_, rfl, ⟨by simp [emit, hpass], hkept⟩, hpath, fun _ => rfl⟩

/-- What the tracer does when a span is closed whose task has begun: it reports the operation and the end of the
task. -/
theorem closed_spec (t : Tracer) {x : Span} (h : x.task = ⟨x.path, x.id.name, t.pass.openState⟩) (outcome : Outcome) :
    ∃ t', t.closed x outcome = (.ok (), t') ∧ t.Grown t' ∧
      (t.pass = .execution → t'.emitted = t.emitted ++
        [t.clock.stamp.message (.op ⟨x.id, x.ancestors, outcome, t.elapsed x⟩),
          t.clock.next.stamp.message (.task ⟨x.path, x.id.name, finalState outcome⟩)]) := by
  cases hpass : t.pass with
  | discovery =>
    simp only [closed, hpass]
    exact ⟨_, rfl, .refl t, nofun⟩
  | execution =>
    rw [hpass] at h
    have hends : x.task.advance (finalState outcome) = .ok ⟨x.path, x.id.name, finalState outcome⟩ := by
      rw [h]
      cases outcome <;> rfl
    simp only [closed, hpass, hends]
    exact ⟨_, rfl, ⟨by simp [emit, hpass], fun _ h => h⟩, fun _ => by simp [emit]⟩

end Tracer

/-! ## Spans in their places -/

/-- A span that was opened below other operations: it knows them, and so does its task, and the graph knows it. -/
structure Span.Placed (x : Span) (around : List OperationId) (t : Tracer) : Prop where
  ancestors : x.ancestors = around
  parent : x.parent? = around.getLast?
  path : x.path = OperationId.joinPath (around ++ [x.id])
  task : x.task = ⟨x.path, x.id.name, t.pass.openState⟩
  found : t.graph.contains x.path

theorem Span.Placed.mono {x : Span} {around : List OperationId} {t t' : Tracer} (h : x.Placed around t)
    (hg : t.Grown t') : x.Placed around t' :=
  ⟨h.ancestors, h.parent, h.path, by rw [hg.pass]; exact h.task, hg.graph _ h.found⟩

namespace Context

/-- The spans of a context are in their places, each below the ones that were opened before it. -/
def Nested (c : Context) (t : Tracer) : Prop :=
  ∀ above x below, c.spans = above ++ x :: below → x.Placed (Context.mk c.base below).path t

variable {c : Context} {t t' : Tracer}

theorem Nested.mono (h : c.Nested t) (hg : t.Grown t') : c.Nested t' :=
  fun above x below hs => (h above x below hs).mono hg

theorem nested_of_nil (base : List OperationId) (t : Tracer) : (Context.mk base []).Nested t := by
  intro above x below hs
  simp at hs

theorem Nested.cons (h : c.Nested t) {x : Span} (hx : x.Placed c.path t) :
    Nested { c with spans := x :: c.spans } t := by
  intro above y below hs
  cases above with
  | nil =>
    obtain ⟨rfl, rfl⟩ := List.cons.inj hs
    exact hx
  | cons top above => exact h above y below (List.cons.inj hs).2

theorem Nested.tail (h : c.Nested t) {top : Span} {below : List Span} (hs : c.spans = top :: below) :
    Nested { c with spans := below } t := by
  intro above x rest hbelow
  exact h (top :: above) x rest (hs.trans (congrArg (top :: ·) hbelow))

/-- What a push does: it opens a span, or it is refused and changes nothing. -/
theorem push_spec (c : Context) (parent id : String) (t : Tracer) :
    ((nameOf c.current? = parent ∧ IsOperationName id) ∧
      ∃ x t', c.push parent id t = (.ok (), { c with spans := x :: c.spans }, t') ∧ x.id.name = id ∧
        x.Placed c.path t' ∧ t.Grown t' ∧
        (t.pass = .execution → t'.emitted =
          t.emitted ++ [t.clock.stamp.message (.task ⟨x.path, x.id.name, .initiated⟩)])) ∨
    (¬(nameOf c.current? = parent ∧ IsOperationName id) ∧
      ∃ e, c.push parent id t = (.error e, c, t) ∧ ∀ fault, e ≠ .lifecycle fault) := by
  by_cases hparent : nameOf c.current? = parent
  · obtain ⟨hname, op, hop, rfl⟩ | ⟨hname, e, he⟩ := OperationId.ofText_cases id
    · obtain ⟨t', ho, hgrown, hfound, hemitted⟩ := t.opened_spec c.path op
      let path := OperationId.joinPath (c.path ++ [op])
      let x : Span := ⟨c.path.getLast?, op, path, c.path, t'.clock.time, ⟨path, op.name, t.pass.openState⟩⟩
      have hpush : c.push parent op.name t = (.ok (), { c with spans := x :: c.spans }, t') := by
        rw [push, if_neg (not_not_intro hparent), hop]
        simp only [ho]
        rfl
      exact .inl ⟨⟨hparent, hname⟩, x, t', hpush, rfl, ⟨rfl, rfl, rfl, by rw [hgrown.pass], hfound⟩, hgrown, hemitted⟩
    · refine .inr ⟨fun h => hname h.2, .invalidId e, ?_, nofun⟩
      rw [push, if_neg (not_not_intro hparent), he]
  · exact .inr ⟨fun h => hparent h.1, _, if_pos hparent, nofun⟩

/-- What a pop does: it closes the span on top, or it is refused and changes nothing. -/
theorem Nested.pop_spec (h : c.Nested t) (parent id : String) (outcome : Outcome) :
    (∃ top below t', c.spans = top :: below ∧ (top.id.name = id ∧ nameOf top.parent? = parent) ∧
      c.pop parent id outcome t = (.ok (), { c with spans := below }, t') ∧ t.Grown t' ∧
      (t.pass = .execution → t'.emitted = t.emitted ++
        [t.clock.stamp.message (.op ⟨top.id, top.ancestors, outcome, t.elapsed top⟩),
          t.clock.next.stamp.message (.task ⟨top.path, top.id.name, Tracer.finalState outcome⟩)])) ∨
    ((∀ top below, c.spans = top :: below → ¬(top.id.name = id ∧ nameOf top.parent? = parent)) ∧
      ∃ e, c.pop parent id outcome t = (.error e, c, t) ∧ ∀ fault, e ≠ .lifecycle fault) := by
  unfold pop
  cases hs : c.spans with
  | nil => exact .inr ⟨nofun, _, rfl, nofun⟩
  | cons top below =>
    by_cases hnames : top.id.name = id ∧ nameOf top.parent? = parent
    · obtain ⟨t', hc, hgrown, hemitted⟩ := t.closed_spec (h [] top below hs).task outcome
      refine .inl ⟨top, below, t', rfl, hnames, ?_, hgrown, hemitted⟩
      simp only [if_pos hnames, hc]
    · refine .inr ⟨?_, _, if_neg hnames, nofun⟩
      rintro _ _ ⟨⟩
      exact hnames

/-- The place of a span by its depth. -/
theorem Nested.placed (h : c.Nested t) {i : Nat} {x : Span} (hx : c.spans.reverse[i]? = some x) :
    x.Placed (c.base ++ (c.spans.reverse.take i).map Span.id) t := by
  obtain ⟨hi, rfl⟩ := List.getElem?_eq_some_iff.mp hx
  have hsplit : c.spans = (c.spans.reverse.drop (i + 1)).reverse ++
      c.spans.reverse[i] :: (c.spans.reverse.take i).reverse := by
    rw [← List.reverse_inj, List.reverse_append, List.reverse_cons, List.reverse_reverse, List.reverse_reverse,
      List.append_assoc, List.singleton_append, ← List.drop_eq_getElem_cons hi, List.take_append_drop]
  have hx := h _ _ _ hsplit
  rwa [path, List.map_reverse, List.reverse_reverse] at hx

end Context

/-! ## Steps of a pass -/

/-- What happens while a pass goes on. -/
inductive TraceCall where
  /-- There is one more context outside all operations. -/
  | begin
  /-- The clock is at another time. -/
  | wait (time : Timestamp)
  /-- A step is taken, refused or not. -/
  | take (step : TraceStep)

namespace Tracing

variable {ν : Type} {s : Tracing ν} {t' : Tracer} {c : Context}

/-- The pass after one more call. -/
def call (s : Tracing ν) : TraceCall → Tracing ν
  | .begin => { s with forks := s.forks ++ [.root] }
  | .wait time => { s with tracer := { s.tracer with clock := { s.tracer.clock with time } } }
  | .take step => (s.perform step).2

/-- The pass after some calls. -/
def after (s : Tracing ν) (calls : List TraceCall) : Tracing ν := calls.foldl call s

/-- All stacks are nested. -/
def Nested (s : Tracing ν) : Prop := ∀ c ∈ s.root :: s.forks, c.Nested s.tracer

theorem context_mem (s : Tracing ν) (n : Nat) : s.context n ∈ s.root :: s.forks := by
  rw [context]
  cases h : (s.root :: s.forks)[n]? with
  | none => exact List.mem_cons_self
  | some c => exact List.mem_of_getElem? h

@[simp] theorem tracer_withContext (s : Tracing ν) (n : Nat) (c : Context) : (s.withContext n c).tracer = s.tracer := by
  rw [withContext]
  split <;> rfl

/-- A context that is put back where it was taken from changes nothing. -/
theorem withContext_context (s : Tracing ν) (n : Nat) : s.withContext n (s.context n) = s := by
  cases n with
  | zero => rfl
  | succ k =>
    by_cases hk : k < s.forks.length
    · have hfork : s.context (k + 1) = s.forks[k] := by simp [context, hk]
      rw [withContext, if_pos ⟨Nat.succ_pos k, hk⟩, hfork, Nat.add_sub_cancel, List.set_getElem_self]
    · have hroot : s.context (k + 1) = s.root := by simp [context, hk]
      rw [withContext, if_neg fun h => hk h.2, hroot]

theorem Nested.withContext (h : s.Nested) (hg : s.tracer.Grown t') (hc : c.Nested t') (n : Nat) :
    ({ s with tracer := t' }.withContext n c).Nested := by
  have hmono : ∀ d ∈ s.root :: s.forks, d.Nested t' := fun d hd => (h d hd).mono hg
  rw [Tracing.withContext]
  split
  · intro d hd
    obtain rfl | hd := List.mem_cons.mp hd
    · exact hmono _ List.mem_cons_self
    · obtain hd | rfl := List.mem_or_eq_of_mem_set hd
      · exact hmono d (List.mem_cons_of_mem _ hd)
      · exact hc
  · intro d hd
    obtain rfl | hd := List.mem_cons.mp hd
    · exact hc
    · exact hmono d (List.mem_cons_of_mem _ hd)

theorem Nested.fork (h : s.Nested) {base : List OperationId} :
    { s with forks := s.forks ++ [Context.mk base []] }.Nested := by
  intro d hd
  obtain hd | hd := List.mem_append.mp (show d ∈ (s.root :: s.forks) ++ [Context.mk base []] from hd)
  · exact h d hd
  · rw [List.mem_singleton.mp hd]
    exact Context.nested_of_nil base _

/-- Every step keeps the stacks nested. -/
theorem Nested.perform (h : s.Nested) (step : TraceStep) : (s.perform step).2.Nested := by
  cases step with
  | push n parent id =>
    obtain ⟨-, x, t', hpush, -, hx, hg, -⟩ | ⟨-, e, hpush, -⟩ := (s.context n).push_spec parent id s.tracer
    · simp only [Tracing.perform, hpush]
      exact h.withContext hg (((h _ (s.context_mem n)).mono hg).cons hx) n
    · simp only [Tracing.perform, hpush, withContext_context]
      exact h
  | pop n parent id outcome =>
    obtain ⟨top, below, t', hspans, -, hpop, hg, -⟩ | ⟨-, e, hpop, -⟩ :=
      Context.Nested.pop_spec (h _ (s.context_mem n)) parent id outcome
    · simp only [Tracing.perform, hpop]
      exact h.withContext hg (((h _ (s.context_mem n)).mono hg).tail hspans) n
    · simp only [Tracing.perform, hpop, withContext_context]
      exact h
  | fork n => exact h.fork
  | current n => exact h
  | analysing => exact h

theorem Nested.call (h : s.Nested) (a : TraceCall) : (s.call a).Nested := by
  cases a with
  | begin => exact h.fork
  | wait time => exact fun c hc => (h c hc).mono ⟨rfl, fun _ hp => hp⟩
  | take step => exact h.perform step

theorem nested_start (t : Tracer) : (start t : Tracing ν).Nested := by
  intro c hc
  rw [List.mem_singleton.mp hc]
  exact Context.nested_of_nil [] t

theorem Nested.after (h : s.Nested) (calls : List TraceCall) : (s.after calls).Nested := by
  induction calls generalizing s with
  | nil => exact h
  | cons a calls ih => exact ih (h.call a)

/-! ## What pushes and pops come to -/

/-- How a push on a context ends, with answer `r` and in the pass `s'`. -/
structure Pushed (s : Tracing ν) (n : Nat) (parent id : String) (r : Except TraceError Unit) (s' : Tracing ν) :
    Prop where
  /-- It succeeds exactly if it names the operation it happens in and one that can be. -/
  ok_iff : r = .ok () ↔ nameOf (s.context n).current? = parent ∧ IsOperationName id
  /-- A refused one changes nothing, and is never refused for the state of a task. -/
  refused : ∀ e, r = .error e → s' = s ∧ ∀ fault, e ≠ .lifecycle fault
  /-- Otherwise there is one more span, on this context, that knows what is around it; its operation is in the graph,
  and in the execution pass its task is reported to have begun. -/
  opened : r = .ok () → ∃ x : Span, x.id.name = id ∧ x.ancestors = (s.context n).path ∧
    s' = { s with tracer := s'.tracer }.withContext n { s.context n with spans := x :: (s.context n).spans } ∧
    s'.tracer.graph.contains x.path ∧
    (s.tracer.pass = .execution → s'.tracer.emitted =
      s.tracer.emitted ++ [s.tracer.clock.stamp.message (.task ⟨x.path, id, .initiated⟩)])

/-- How a pop on a context ends, with answer `r` and in the pass `s'`. -/
structure Popped (s : Tracing ν) (n : Nat) (parent id : String) (outcome : Outcome) (r : Except TraceError Unit)
    (s' : Tracing ν) : Prop where
  /-- It succeeds exactly if it names the span on top and the operation around that. -/
  ok_iff : r = .ok () ↔
    ∃ top below, (s.context n).spans = top :: below ∧ top.id.name = id ∧ nameOf top.parent? = parent
  /-- A refused one changes nothing, and is never refused for the state of a task. -/
  refused : ∀ e, r = .error e → s' = s ∧ ∀ fault, e ≠ .lifecycle fault
  /-- Otherwise the span on top is gone from this context, and in the execution pass it is reported as an operation, and
  the end of its task right behind it; both have the same path, which is in the graph. -/
  closed : r = .ok () → ∃ top below, (s.context n).spans = top :: below ∧
    s' = { s with tracer := s'.tracer }.withContext n { s.context n with spans := below } ∧
    (s.tracer.pass = .execution →
      let op : Op := ⟨top.id, top.ancestors, outcome, s.tracer.elapsed top⟩
      op.path = top.path ∧ s'.tracer.graph.contains op.path ∧
        s'.tracer.emitted = s.tracer.emitted ++ [s.tracer.clock.stamp.message (.op op),
          s.tracer.clock.next.stamp.message (.task ⟨op.path, id, Tracer.finalState outcome⟩)])

theorem pushed (s : Tracing ν) (n : Nat) (parent id : String) :
    let r := (s.context n).push parent id s.tracer
    s.Pushed n parent id r.1 ({ s with tracer := r.2.2 }.withContext n r.2.1) := by
  obtain ⟨hfits, x, t', hpush, hname, hx, -, hemitted⟩ | ⟨hunfit, e, hpush, he⟩ :=
    (s.context n).push_spec parent id s.tracer
  · rw [hpush]
    refine ⟨⟨fun _ => hfits, fun _ => rfl⟩, nofun, fun _ => ⟨x, hname, hx.ancestors, ?_⟩⟩
    simp only [tracer_withContext, true_and]
    exact ⟨hx.found, fun h => hname ▸ hemitted h⟩
  · rw [hpush]
    refine ⟨⟨nofun, fun h => absurd h hunfit⟩, ?_, nofun⟩
    rintro _ ⟨⟩
    exact ⟨s.withContext_context n, he⟩

theorem Nested.popped (h : s.Nested) (n : Nat) (parent id : String) (outcome : Outcome) :
    let r := (s.context n).pop parent id outcome s.tracer
    s.Popped n parent id outcome r.1 ({ s with tracer := r.2.2 }.withContext n r.2.1) := by
  have hcontext : (s.context n).Nested s.tracer := h _ (s.context_mem n)
  obtain ⟨top, below, t', hspans, hnames, hpop, hg, hemitted⟩ | ⟨hunfit, e, hpop, he⟩ :=
    hcontext.pop_spec parent id outcome
  · rw [hpop]
    refine ⟨⟨fun _ => ⟨top, below, hspans, hnames⟩, fun _ => rfl⟩, nofun, fun _ => ⟨top, below, hspans, ?_⟩⟩
    have htop := hcontext [] top below hspans
    have hpath : OperationId.joinPath (top.ancestors ++ [top.id]) = top.path := by rw [htop.ancestors, ← htop.path]
    simp only [tracer_withContext, Op.path, hpath, true_and]
    exact fun h => ⟨hg.graph _ htop.found, hnames.1 ▸ hemitted h⟩
  · rw [hpop]
    refine ⟨⟨nofun, ?_⟩, ?_, nofun⟩
    · rintro ⟨top, below, hspans, hnames⟩
      exact absurd hnames (hunfit top below hspans)
    · rintro _ ⟨⟩
      exact ⟨s.withContext_context n, he⟩

/-- **Spans nest, and are reported as they nest.** After any calls on a pass, refused ones among them: a span at depth
`i` has as ancestors what its context inherited and the spans below it, as parent the last of these, and as path all of them
and itself; and whatever is pushed or popped next, on any context, goes as `Pushed` and `Popped` say. A fork inherits
where its context is. -/
theorem nesting (t : Tracer) (calls : List TraceCall) :
    let s := (start t : Tracing ν).after calls
    (∀ c ∈ s.root :: s.forks, ∀ i x, c.spans.reverse[i]? = some x →
      let around := c.base ++ (c.spans.reverse.take i).map Span.id
      x.ancestors = around ∧ x.parent? = around.getLast? ∧ x.path = OperationId.joinPath (around ++ [x.id])) ∧
    (∀ n parent id, s.Pushed n parent id (s.perform (.push n parent id)).1 (s.perform (.push n parent id)).2) ∧
    (∀ n parent id outcome,
      s.Popped n parent id outcome (s.perform (.pop n parent id outcome)).1 (s.perform (.pop n parent id outcome)).2) ∧
    ∀ n, (s.perform (.fork n)).2 = { s with forks := s.forks ++ [⟨(s.context n).path, []⟩] } := by
  intro s
  have hs : s.Nested := (nested_start t).after calls
  refine ⟨fun c hc i x hx => ?_, s.pushed, hs.popped, fun _ => rfl⟩
  have hplaced := (hs c hc).placed hx
  exact ⟨hplaced.ancestors, hplaced.parent, hplaced.path⟩

end Tracing

end RunLedger
