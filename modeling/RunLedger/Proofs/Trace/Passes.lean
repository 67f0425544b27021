import RunLedger.Proofs.Trace.Deeds

/-!
# The same in both passes

A pipeline whose steps on contexts do not depend on the pass (`Pipeline.PassIndependent`) takes the same steps in both
passes, with the same answers, and makes the same graph. Both passes go on side by side (`Tracing.Abreast`): their
contexts are at the same places, though the tasks of open spans are in other states, and a push or a pop is answered by
its place alone (`Tracing.Nested.make_spec`).

* `DualPass.same_in_both`: answers, graphs, difference, and what each pass reports.
-/

namespace RunLedger

/-! ## Pipelines that do not depend on the pass -/

namespace Pipeline

variable {ν α : Type}

/-- Pipelines that take the same steps on contexts, whatever the answers, if the first is run in the discovery pass and
the second in the execution pass. What they ask about the pass, what they note and what they give in the end may
differ. -/
inductive Alike : Pipeline ν α → Pipeline ν α → Prop where
  | done (a b : α) : Alike (.done a) (.done b)
  | step {op : TraceStep} {next next' : op.Answer → Pipeline ν α} (hop : op ≠ .analysing)
      (h : ∀ r, Alike (next r) (next' r)) : Alike (.step op next) (.step op next')
  | asked {next : Bool → Pipeline ν α} {q : Pipeline ν α} (h : Alike (next true) q) : Alike (.step .analysing next) q
  | asked' {p : Pipeline ν α} {next : Bool → Pipeline ν α} (h : Alike p (next false)) : Alike p (.step .analysing next)
  | note {n : Nat} {label : ν} {next q : Pipeline ν α} (h : Alike next q) : Alike (.note n label next) q
  | note' {n : Nat} {label : ν} {p next : Pipeline ν α} (h : Alike p next) : Alike p (.note n label next)

/-- A pipeline whose steps on contexts depend on the answers to earlier ones, and not on the pass. -/
def PassIndependent (p : Pipeline ν α) : Prop := p.Alike p

end Pipeline

namespace Tracing

variable {ν α : Type} {s s' : Tracing ν}

/-- A step on contexts with its answer; none if the step only asks about the pass. -/
def exchange (s : Tracing ν) (op : TraceStep) : List ((step : TraceStep) × step.Answer) :=
  if op = .analysing then [] else [⟨op, (s.perform op).1⟩]

/-- The steps of a run on contexts, each with its answer. -/
def transcript (s : Tracing ν) : Pipeline ν α → List ((step : TraceStep) × step.Answer)
  | .done _ => []
  | .step op next => s.exchange op ++ (s.perform op).2.transcript (next (s.perform op).1)
  | .note n label next => (s.noted n label).transcript next

/-! ## Side by side -/

/-- A discovery pass and an execution pass that have come equally far. -/
structure Abreast (s s' : Tracing ν) : Prop where
  nested : s.Nested
  nested' : s'.Nested
  discovery : s.tracer.pass = .discovery
  execution : s'.tracer.pass = .execution
  places : s.places = s'.places
  graph : s.tracer.graph = s'.tracer.graph

theorem Abreast.length_forks (h : s.Abreast s') : s.forks.length = s'.forks.length := by
  have hlength := congrArg List.length h.places
  simpa [Tracing.places] using hlength

theorem Abreast.slot (h : s.Abreast s') (n : Nat) : s.slot n = s'.slot n := by
  rw [Tracing.slot, Tracing.slot, h.length_forks]

/-- A context is at the same place in both passes. -/
theorem Abreast.place (h : s.Abreast s') (n : Nat) : (s.context n).place = (s'.context n).place := by
  have hplace := s.place_eq n
  rw [h.places, h.slot, s'.place_eq n] at hplace
  exact (Option.some.inj hplace).symm

/-- A call has the same answer in both passes, which stay side by side. -/
theorem Abreast.make (h : s.Abreast s') (n : Nat) (a : SpanCall) :
    (s.make n a).1 = (s'.make n a).1 ∧ (s.make n a).2.Abreast (s'.make n a).2 := by
  obtain ⟨d, p, ha, hok, hplaces, -, hsaw⟩ | ⟨e, ha, hm, -⟩ := h.nested.make_spec n a
  · obtain ⟨d', p', ha', hok', hplaces', -, hsaw'⟩ | ⟨e', ha', -⟩ := h.nested'.make_spec n a
    · rw [h.place, ha'] at ha
      cases ha
      exact ⟨hok.trans hok'.symm, {
        nested := h.nested.make n a
        nested' := h.nested'.make n a
        discovery := hsaw.pass.trans h.discovery
        execution := hsaw'.pass.trans h.execution
        places := by rw [hplaces, hplaces', h.places, h.slot]
        graph := by rw [hsaw.graph, hsaw'.graph, h.graph] }⟩
    · rw [h.place, ha'] at ha
      cases ha
  · obtain ⟨d', p', ha', -⟩ | ⟨e', ha', hm', -⟩ := h.nested'.make_spec n a
    · rw [h.place, ha'] at ha
      cases ha
    · rw [h.place, ha'] at ha
      cases ha
      rw [hm, hm']
      exact ⟨rfl, h⟩

/-- A step on contexts has the same answer in both passes, which stay side by side. -/
theorem Abreast.perform (h : s.Abreast s') {op : TraceStep} (hop : op ≠ .analysing) :
    (s.perform op).1 = (s'.perform op).1 ∧ (s.perform op).2.Abreast (s'.perform op).2 := by
  cases op with
  | push n parent id => exact h.make n (.push parent id)
  | pop n parent id outcome => exact h.make n (.pop parent id outcome)
  | fork n =>
    refine ⟨congrArg (· + 1) h.length_forks, { h with
      nested := h.nested.perform (.fork n)
      nested' := h.nested'.perform (.fork n)
      places := ?_ }⟩
    rw [places_fork, places_fork, h.places, h.place]
  | current n =>
    have hcurrent : (s.context n).current? = (s'.context n).current? := by
      rw [Context.current?_eq, Context.current?_eq, ← Context.path_place, ← Context.path_place, h.place]
    exact ⟨congrArg nameOf hcurrent, h⟩
  | analysing => exact absurd rfl hop

/-- A question about the pass is answered and leaves no trace. -/
theorem run_asked {b : Bool} (h : decide (s.tracer.pass = .discovery) = b) (next : Bool → Pipeline ν α) :
    s.transcript (.step .analysing next) = s.transcript (next b) ∧ s.run (.step .analysing next) = s.run (next b) := by
  subst h
  exact ⟨rfl, rfl⟩

/-- Pipelines that are alike have the same answers, and their passes stay side by side. -/
theorem Abreast.run {p q : Pipeline ν α} (hpq : p.Alike q) (h : s.Abreast s') :
    s.transcript p = s'.transcript q ∧ (s.run p).2.Abreast (s'.run q).2 := by
  induction hpq generalizing s s' with
  | done a b => exact ⟨rfl, h⟩
  | @step op next next' hop _ ih =>
    obtain ⟨hanswer, hs⟩ := h.perform hop
    obtain ⟨ht, hr⟩ := ih (s.perform op).1 hs
    rw [Tracing.transcript, Tracing.transcript, Tracing.run, Tracing.run, exchange, exchange, if_neg hop, if_neg hop,
      ← hanswer]
    exact ⟨congrArg _ ht, hr⟩
  | asked _ ih =>
    obtain ⟨ht, hr⟩ := run_asked (decide_eq_true h.discovery) _
    rw [ht, hr]
    exact ih h
  | asked' _ ih =>
    obtain ⟨ht, hr⟩ := run_asked (s := s') (decide_eq_false (by rw [h.execution]; nofun)) _
    rw [ht, hr]
    exact ih h
  | note _ ih => exact ih (s := s.noted _ _) { h with nested := h.nested }
  | @note' n label _ _ _ ih =>
    have hnoted : s.Abreast (s'.noted n label) := { h with nested' := h.nested' }
    exact ih hnoted

end Tracing

/-! ## Dual runs -/

/-- The execution pass reports no task that has not begun. -/
theorem Deed.state_of_mem_events {deeds : List Deed} {task : Task} (h : .task task ∈ deeds.flatMap Deed.events) :
    task.state ≠ .pending := by
  obtain ⟨d, -, hd⟩ := List.mem_flatMap.mp h
  cases d with
  | opened around id =>
    cases List.mem_singleton.mp hd
    intro hpending
    cases hpending
  | closed around id outcome =>
    simp only [Deed.events, List.mem_cons, reduceCtorEq, false_or, List.not_mem_nil, or_false, Event.task.injEq] at hd
    subst hd
    intro hpending
    cases outcome <;> cases hpending

theorem StructureDiff.lacking_self (g : OpGraph) : lacking g g = [] := by
  rw [lacking, List.filter_eq_nil_iff]
  intro e he
  have hcontains : g.contains e.1 := OpGraph.contains_iff.mpr (List.mem_map_of_mem he)
  simp [hcontains]

theorem StructureDiff.between_self (g : OpGraph) : between g g = ⟨[], [], []⟩ := by
  simp [between, lacking_self]

namespace DualPass

variable {ν ε α : Type} {emitted : List Message} {clock : Clock} {p : Pipeline ν (Exit ε α)}

/-- The state in which the execution pass begins after a discovery pass. -/
def second (d : Tracing ν) : Tracing ν := .start (.start .execution d.tracer.emitted d.tracer.clock)

/-- If the discovery pass returns, then the execution pass is run. -/
theorem run_of_returned {a : α} {d : Tracing ν}
    (h : (Tracing.start (.start .discovery emitted clock)).run p = (.returned a, d)) :
    (run emitted clock p).discovery = d ∧ (run emitted clock p).execution = some ((second d).run p).2 ∧
      ∀ report, (run emitted clock p).result = .returned report →
        report.discovered = d.tracer.graph ∧ report.executed = ((second d).run p).2.tracer.graph ∧
          report.diff = .between d.tracer.graph ((second d).run p).2.tracer.graph := by
  unfold run second
  rw [h]
  rcases hx : (Tracing.start (.start .execution d.tracer.emitted d.tracer.clock)).run p with ⟨exit, x⟩
  cases exit with
  | returned output =>
    simp only [hx, true_and]
    rintro report ⟨⟩
    exact ⟨rfl, rfl, rfl⟩
  | failed e =>
    simp only [hx, true_and]
    rintro report ⟨⟩
  | panicked =>
    simp only [hx, true_and]
    rintro report ⟨⟩

/-- **Both passes are the same for a pipeline that does not depend on the pass.** If its discovery pass returns, its
execution pass takes the same steps with the same answers and makes the same graph, so that no difference is found; the
discovery pass reports every operation once, as a task that has not begun, in the order of discovery, and nothing else;
the execution pass reports no such task. -/
theorem same_in_both (hp : p.PassIndependent) {a : α} {d : Tracing ν}
    (hd : (Tracing.start (.start .discovery emitted clock)).run p = (.returned a, d)) :
    let r := run emitted clock p
    let x := ((second d).run p).2
    r.discovery = d ∧ r.execution = some x ∧
      (Tracing.start (.start .discovery emitted clock)).transcript p = (second d).transcript p ∧
      d.tracer.graph = x.tracer.graph ∧
      (∀ report, r.result = .returned report →
        report.discovered = report.executed ∧ report.diff.isConsistent ∧ report.diff.reparented = []) ∧
      (∃ ms, d.tracer.emitted = emitted ++ ms ∧ ms.map Message.event =
        d.tracer.graph.nodes.entries.map fun e => .task ⟨e.1, e.2.id.name, .pending⟩) ∧
      ∃ ms, x.tracer.emitted = d.tracer.emitted ++ ms ∧
        ∀ m ∈ ms, ∀ task, m.event = .task task → task.state ≠ .pending := by
  intro r x
  obtain ⟨hdiscovery, hexecution, hreport⟩ := run_of_returned hd
  let d₀ : Tracing ν := .start (.start .discovery emitted clock)
  have hd₀ : d₀.Nested := Tracing.nested_start _
  have hx₀ : (second d).Nested := Tracing.nested_start _
  have habreast : d₀.Abreast (second d) := ⟨hd₀, hx₀, rfl, rfl, rfl, rfl⟩
  obtain ⟨htranscript, hend⟩ := habreast.run hp
  have hgraph : d.tracer.graph = x.tracer.graph := by
    rw [← hend.graph, hd]
  refine ⟨hdiscovery, hexecution, htranscript, hgraph, ?_, ?_, ?_⟩
  · intro report hr
    obtain ⟨hdiscovered, hexecuted, hdiff⟩ := hreport report hr
    rw [← hgraph, StructureDiff.between_self] at hdiff
    exact ⟨by rw [hdiscovered, hexecuted, hgraph], by rw [hdiff]; rfl, by rw [hdiff]⟩
  · obtain ⟨ms, tasks, hemitted, hms, htasks⟩ := (hd₀.run p).2.discovered rfl
    rw [hd] at hemitted htasks
    have hnone : d₀.tracer.graph.tasks = [] := rfl
    rw [hnone, List.nil_append] at htasks
    exact ⟨ms, hemitted, by rw [hms, ← htasks, OpGraph.tasks, List.map_map]; rfl⟩
  · obtain ⟨ms, hemitted, hms⟩ := (hx₀.run p).2.executed rfl
    refine ⟨ms, hemitted, fun m hm task htask => ?_⟩
    have hmem : .task task ∈ ((second d).deeds p).flatMap Deed.events := by
      rw [← hms]
      exact List.mem_map.mpr ⟨m, hm, by rw [htask]; rfl⟩
    exact Deed.state_of_mem_events hmem

/-- A pipeline that asks about the pass, opens one span and is refused another. -/
def asking : Pipeline Unit (Exit Unit Bool) :=
  .step (.push 0 "" "ci") fun _ => .step .analysing fun dry => .step (.push 0 "x" "lint") fun _ =>
    .step (.pop 0 "" "ci" .success) fun _ => .done (.returned dry)

theorem same_in_both_asking :
    asking.PassIndependent ∧ ∃ d, (Tracing.start (.start .discovery [] default)).run asking = (.returned true, d) ∧
      d.tracer.graph.paths = ["ci"] ∧
        (run [] default asking).execution.map (fun x => x.tracer.graph.paths) = some ["ci"] := by
  have hp : asking.PassIndependent :=
    .step nofun fun _ => .asked (.asked' (.step nofun fun _ => .step nofun fun _ => .done _ _))
  have hd : (Tracing.start (.start .discovery [] default)).run asking =
    (.returned true, ((Tracing.start (.start .discovery [] default)).run asking).2) := rfl
  obtain ⟨-, hexecution, -, hgraph, -⟩ := same_in_both hp hd
  refine ⟨hp, _, hd, rfl, ?_⟩
  rw [hexecution, Option.map_some, ← hgraph]
  rfl

end DualPass

end RunLedger
