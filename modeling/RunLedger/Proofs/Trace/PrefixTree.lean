import RunLedger.Proofs.Trace.Forks

/-!
# The graph of a pass is a prefix tree

What a pass finds are lists of operations: what was pushed, below everything around it. The graph stores their paths as
texts; seen through these it is the prefix tree of the lists (`OpGraph.IsTreeOf`), with everything in the order in which
it was first pushed. Because a path stands for one list only, no two nodes fall together.

A list is added below the one that it extends, which has to be there (`OpGraph.IsTreeOf.insert`). It is: a context stands
where something was pushed before, also if it was forked off another one and the spans that it inherited are closed by now
(`Place.Found`).

* `Tracing.prefix_tree`: the graph after any calls on the contexts of a pass.
-/

namespace RunLedger

/-- An operation and those around it, outermost first. -/
structure OpPath where
  around : List OperationId
  id : OperationId
  deriving DecidableEq

namespace OpPath

/-- The operations from the outermost one to this one. -/
def ids (p : OpPath) : List OperationId := p.around ++ [p.id]

/-- The path as a text. -/
def text (p : OpPath) : String := OperationId.joinPath p.ids

variable {p q : OpPath}

theorem ids_ne_nil (p : OpPath) : p.ids ≠ [] := List.append_ne_nil_of_right_ne_nil _ (List.cons_ne_nil _ _)

theorem ids_ne_around (p : OpPath) : p.ids ≠ p.around := by
  intro h
  have hlength := congrArg List.length h
  rw [ids, List.length_append, List.length_singleton] at hlength
  omega

theorem ids_inj (h : p.ids = q.ids) : p = q := by
  obtain ⟨haround, hid⟩ := List.append_inj' h rfl
  cases p
  cases q
  cases haround
  cases List.singleton_inj.mp hid
  rfl

theorem text_inj (h : p.text = q.text) : p = q := ids_inj (OperationId.joinPath_inj h)

theorem mem_map_text {L : List OpPath} : p.text ∈ L.map text ↔ p ∈ L := by
  refine ⟨fun h => ?_, List.mem_map_of_mem⟩
  obtain ⟨q, hq, htext⟩ := List.mem_map.mp h
  rwa [← text_inj htext]

theorem pathOf_ids (p : OpPath) : pathOf p.ids = some p.text := pathOf_append p.around p.id

end OpPath

/-- Operations are in others, or in none, by their paths. -/
theorem pathOf_inj {around around' : List OperationId} (h : pathOf around = pathOf around') : around = around' := by
  cases around with
  | nil =>
    cases around' with
    | nil => rfl
    | cons id ids => cases h
  | cons id ids =>
    cases around' with
    | nil => cases h
    | cons id' ids' => exact OperationId.joinPath_inj (Option.some.inj h)

namespace OpGraph

/-- The operations of a list that stand right inside of others, by their paths. -/
def textsIn (L : List OpPath) (around : List OperationId) : List String :=
  (L.filter fun p => p.around = around).map OpPath.text

/-- A graph that is the prefix tree of a list of operations, in the order of the list. -/
structure IsTreeOf (g : OpGraph) (L : List OpPath) : Prop where
  paths : g.paths = L.map OpPath.text
  node : ∀ p ∈ L, g.get? p.text = some ⟨p.id, pathOf p.around, textsIn L p.ids⟩
  roots : g.roots = textsIn L []
  /-- What an operation is in comes before it. -/
  parent : ∀ before p, before ++ [p] <+: L → p.around = [] ∨ ∃ q ∈ before, q.ids = p.around

variable {g : OpGraph} {L : List OpPath} {p : OpPath}

theorem IsTreeOf.contains_iff (h : g.IsTreeOf L) : g.contains p.text ↔ p ∈ L := by
  rw [OpGraph.contains_iff, h.paths, OpPath.mem_map_text]

theorem IsTreeOf.contains_eq_false (h : g.IsTreeOf L) (hp : p ∉ L) : g.contains p.text = false :=
  Bool.eq_false_iff.mpr fun hc => hp (h.contains_iff.mp hc)

/-- What the operations of a tree are in is there. -/
theorem IsTreeOf.exists_parent (h : g.IsTreeOf L) (hp : p ∈ L) : p.around = [] ∨ ∃ q ∈ L, q.ids = p.around := by
  obtain ⟨before, behind, rfl⟩ := List.append_of_mem hp
  have hprefix : before ++ [p] <+: before ++ p :: behind := ⟨behind, by rw [List.append_assoc]; rfl⟩
  obtain hnil | ⟨q, hq, hids⟩ := h.parent before p hprefix
  · exact .inl hnil
  · exact .inr ⟨q, List.mem_append_left _ hq, hids⟩

theorem textsIn_concat (L : List OpPath) (p : OpPath) (around : List OperationId) :
    textsIn (L ++ [p]) around = if p.around = around then textsIn L around ++ [p.text] else textsIn L around := by
  simp only [textsIn, List.filter_append, List.map_append, List.filter_cons, List.filter_nil, decide_eq_true_eq]
  split
  · rfl
  · exact List.append_nil _

theorem mem_of_mem_textsIn {around : List OperationId} (h : p.text ∈ textsIn L around) : p ∈ L := by
  obtain ⟨q, hq, htext⟩ := List.mem_map.mp h
  rw [← OpPath.text_inj htext]
  exact (List.mem_filter.mp hq).1

/-- Nothing of a tree is in an operation that the tree does not have. -/
theorem IsTreeOf.textsIn_of_notMem (h : g.IsTreeOf L) (hp : p ∉ L) : textsIn L p.ids = [] := by
  rw [textsIn, List.map_eq_nil_iff, List.filter_eq_nil_iff]
  intro q hq hin
  have hin : q.around = p.ids := of_decide_eq_true hin
  obtain hnil | ⟨r, hr, hids⟩ := h.exists_parent hq
  · exact p.ids_ne_nil (hin.symm.trans hnil)
  · exact hp (OpPath.ids_inj (hids.trans hin) ▸ hr)

/-- What the graph says is right inside of an operation, which it may have or not. -/
theorem IsTreeOf.children (h : g.IsTreeOf L) (p : OpPath) : g.children p.text = textsIn L p.ids := by
  by_cases hp : p ∈ L
  · rw [OpGraph.children, h.node p hp]
    rfl
  · have hnone : g.get? p.text = none := get?_of_not_contains (h.contains_eq_false hp)
    rw [h.textsIn_of_notMem hp, OpGraph.children, hnone]
    rfl

/-- What is found in a tree after an operation was added that is new to it. -/
theorem IsTreeOf.get?_attach (h : g.IsTreeOf L) (hp : p ∉ L) (hparent : p.around = [] ∨ ∃ q ∈ L, q.ids = p.around)
    (other : String) :
    (g.attach (pathOf p.around) p.text p.id).get? other = if p.text = other then some ⟨p.id, pathOf p.around, []⟩
      else (g.get? other).map fun n =>
        if pathOf p.around = some other then { n with children := n.children ++ [p.text] } else n := by
  obtain hnil | ⟨q, hq, hids⟩ := hparent
  · have hnone : pathOf p.around = none := by rw [hnil]; rfl
    rw [hnone, get?_attach_root]
    split
    · rfl
    · simp
  · have hsome : pathOf p.around = some q.text := by rw [← hids, q.pathOf_ids]
    have hnew : p.text ∉ textsIn L q.ids := fun hmem => hp (mem_of_mem_textsIn hmem)
    rw [hsome, get?_attach_inside (h.node q hq)]
    split
    · rfl
    · by_cases hother : q.text = other
      · subst hother
        rw [if_pos rfl, h.node q hq, Option.map_some, if_pos rfl, addTo, if_neg hnew]
      · simp [hother]

/-- The roots of a tree after an operation was added that is new to it. -/
theorem IsTreeOf.roots_attach (h : g.IsTreeOf L) (hp : p ∉ L) (hparent : p.around = [] ∨ ∃ q ∈ L, q.ids = p.around) :
    (g.attach (pathOf p.around) p.text p.id).roots = textsIn (L ++ [p]) [] := by
  rw [textsIn_concat]
  obtain hnil | ⟨q, hq, hids⟩ := hparent
  · have hnone : pathOf p.around = none := by rw [hnil]; rfl
    have hnew : p.text ∉ textsIn L [] := fun hmem => hp (mem_of_mem_textsIn hmem)
    rw [hnone, if_pos hnil]
    show addTo g.roots p.text = _
    rw [h.roots, addTo, if_neg hnew]
  · have hsome : pathOf p.around = some q.text := by rw [← hids, q.pathOf_ids]
    have hne : p.around ≠ [] := fun hnil => q.ids_ne_nil (hids.trans hnil)
    rw [hsome, attach_inside (h.node q hq), if_neg hne]
    exact h.roots

/-- **An operation that is inserted below one that is there makes a tree of it and the others,** if it is new, and else
changes nothing. -/
theorem IsTreeOf.insert (h : g.IsTreeOf L) (hparent : p.around = [] ∨ ∃ q ∈ L, q.ids = p.around) :
    (g.insert (pathOf p.around) p.text p.id).IsTreeOf (if p ∈ L then L else L ++ [p]) := by
  by_cases hp : p ∈ L
  · rw [insert_of_contains (h.contains_iff.mpr hp), if_pos hp]
    exact h
  have hattach : g.insert (pathOf p.around) p.text p.id = g.attach (pathOf p.around) p.text p.id := by
    rw [OpGraph.insert, h.contains_eq_false hp]
    rfl
  rw [if_neg hp]
  refine ⟨?_, fun q hq => ?_, ?_, fun before q hq => ?_⟩
  · have hpath : p.text ∉ g.paths := by rwa [h.paths, OpPath.mem_map_text]
    rw [paths_insert, if_neg hpath, h.paths, List.map_append]
    rfl
  · rw [hattach, h.get?_attach hp hparent, textsIn_concat]
    obtain hq | hq := List.mem_append.mp hq
    · have hne : p.text ≠ q.text := fun htext => hp (OpPath.text_inj htext ▸ hq)
      have hin : pathOf p.around = some q.text ↔ p.around = q.ids := by
        rw [← q.pathOf_ids]
        exact ⟨pathOf_inj, fun he => by rw [he]⟩
      rw [if_neg hne, h.node q hq, Option.map_some]
      simp only [hin]
      split <;> rfl
    · rw [List.mem_singleton.mp hq, if_pos rfl, if_neg p.ids_ne_around.symm, h.textsIn_of_notMem hp]
  · rw [hattach]
    exact h.roots_attach hp hparent
  · obtain heq | hprefix := List.prefix_concat_iff.mp hq
    · obtain ⟨rfl, hpq⟩ := List.append_inj' heq rfl
      rwa [List.singleton_inj.mp hpq]
    · exact h.parent before q hprefix

theorem isTreeOf_empty : empty.IsTreeOf [] where
  paths := rfl
  node := nofun
  roots := rfl
  parent _ _ h := absurd (List.prefix_nil.mp h) (List.append_ne_nil_of_right_ne_nil _ (List.cons_ne_nil _ _))

end OpGraph

/-! ## What is pushed -/

namespace Tracing

variable {ν : Type} {s : Tracing ν} {t : Tracer} {deeds : List Deed}

/-- What a call pushes, if it is a push that succeeds: the operation of that name, in those around its context. -/
def pushedBy (s : Tracing ν) : TraceCall → List OpPath
  | .take (.push n parent id) =>
    match (s.perform (.push n parent id)).1, OperationId.ofText id with
    | .ok (), .ok op => [⟨(s.context n).path, op⟩]
    | _, _ => []
  | _ => []

/-- What some calls push, in order. -/
def pushes (s : Tracing ν) : List TraceCall → List OpPath
  | [] => []
  | a :: calls => s.pushedBy a ++ (s.call a).pushes calls

theorem Traced.begin (h : s.Traced t deeds) : (s.call .begin).Traced t deeds where
  nested := h.nested.call .begin
  saw := h.saw
  made := h.made
  found p hp := by
    have hplaces : (s.call .begin).places = s.places ++ [Context.root.place] := by
      simp only [call, places, ← List.cons_append, List.map_append]
      rfl
    rw [hplaces] at hp
    obtain hp | hp := List.mem_append.mp hp
    · exact h.found p hp
    · rw [List.mem_singleton.mp hp]
      intro around haround path hpath
      rw [List.prefix_nil.mp haround] at hpath
      cases hpath

/-- Whatever is called, the tracer knows where the contexts are. -/
theorem Traced.call (h : s.Traced t deeds) (a : TraceCall) : ∃ deeds, (s.call a).Traced t deeds := by
  cases a with
  | begin => exact ⟨_, h.begin⟩
  | wait time => exact ⟨_, h.wait time⟩
  | take step =>
    cases step with
    | push n parent id => exact ⟨_, h.make n (.push parent id)⟩
    | pop n parent id outcome => exact ⟨_, h.make n (.pop parent id outcome)⟩
    | fork n => exact ⟨_, h.fork n⟩
    | current n => exact ⟨_, h⟩
    | analysing => exact ⟨_, h⟩

theorem Traced.after (h : s.Traced t deeds) (calls : List TraceCall) : ∃ deeds, (s.after calls).Traced t deeds := by
  induction calls generalizing s deeds with
  | nil => exact ⟨deeds, h⟩
  | cons a calls ih =>
    obtain ⟨deeds', hcall⟩ := h.call a
    exact ih hcall

/-- What is around a context was pushed before. -/
theorem Traced.contains_around (h : s.Traced t deeds) {c : Context} (hc : c ∈ s.root :: s.forks)
    {around : List OperationId} (haround : around <+: c.path) {path : String} (hpath : pathOf around = some path) :
    s.tracer.graph.contains path :=
  h.found c.place (List.mem_map_of_mem hc) around haround path hpath

/-- A push inserts what it pushes into the graph, below what is around its context; one that is refused changes
nothing. -/
theorem Nested.graph_push (h : s.Nested) (n : Nat) (parent id : String) :
    (∃ op, s.pushedBy (.take (.push n parent id)) = [⟨(s.context n).path, op⟩] ∧
      (s.perform (.push n parent id)).2.tracer.graph =
        s.tracer.graph.insert (pathOf (s.context n).path) (OperationId.joinPath ((s.context n).path ++ [op])) op) ∨
    (s.pushedBy (.take (.push n parent id)) = [] ∧ (s.perform (.push n parent id)).2 = s) := by
  obtain ⟨d, p, ha, hok, -, -, hsaw⟩ | ⟨e, -, hm, -⟩ := h.make_spec n (.push parent id)
  · rw [Place.answer, Context.path_place] at ha
    split at ha
    · cases ha
    · split at ha
      · cases ha
      · rename_i op hop
        cases ha
        refine .inl ⟨op, ?_, hsaw.graph⟩
        simp only [pushedBy, perform_push, hok, hop]
  · refine .inr ⟨?_, by rw [perform_push, hm]⟩
    simp only [pushedBy, perform_push, hm]

/-- A pop leaves the graph alone. -/
theorem Nested.graph_pop (h : s.Nested) (n : Nat) (parent id : String) (outcome : Outcome) :
    (s.perform (.pop n parent id outcome)).2.tracer.graph = s.tracer.graph := by
  obtain ⟨top, below, t', -, -, hpop, hsaw⟩ | ⟨e, -, hpop⟩ :=
    Context.pop_answer (h _ (s.context_mem n)).topPlaced parent id outcome
  · simp only [Tracing.perform, hpop, tracer_withContext]
    exact hsaw.graph
  · simp only [Tracing.perform, hpop, withContext_context]

/-- **A call keeps the graph the prefix tree of what was pushed.** -/
theorem Traced.tree_call (h : s.Traced t deeds) {past : List OpPath} (htree : s.tracer.graph.IsTreeOf past.eraseDups)
    (a : TraceCall) : (s.call a).tracer.graph.IsTreeOf (past ++ s.pushedBy a).eraseDups := by
  -- all but a push leaves the graph alone
  have hsame (hpushed : s.pushedBy a = []) (hgraph : (s.call a).tracer.graph = s.tracer.graph) :
      (s.call a).tracer.graph.IsTreeOf (past ++ s.pushedBy a).eraseDups := by
    rw [hpushed, hgraph, List.append_nil]
    exact htree
  cases a with
  | begin => exact hsame rfl rfl
  | wait time => exact hsame rfl rfl
  | take step =>
    cases step with
    | push n parent id =>
      obtain ⟨op, hpushed, hgraph⟩ | ⟨hpushed, hs⟩ := h.nested.graph_push n parent id
      · let p : OpPath := ⟨(s.context n).path, op⟩
        have hparent : p.around = [] ∨ ∃ q ∈ past.eraseDups, q.ids = p.around := by
          obtain hnil | ⟨around, last, hconcat⟩ := List.eq_nil_or_concat p.around
          · exact .inl hnil
          · let q : OpPath := ⟨around, last⟩
            have hids : q.ids = p.around := by rw [hconcat, List.concat_eq_append]; rfl
            have hfound := h.contains_around (s.context_mem n) (List.prefix_refl _) (hids ▸ q.pathOf_ids)
            exact .inr ⟨q, htree.contains_iff.mp hfound, hids⟩
        have hinsert := htree.insert hparent
        rw [hpushed, eraseDups_concat]
        exact hgraph ▸ hinsert
      · exact hsame hpushed (by rw [Tracing.call, hs])
    | pop n parent id outcome => exact hsame rfl (h.nested.graph_pop n parent id outcome)
    | fork n => exact hsame rfl rfl
    | current n => exact hsame rfl rfl
    | analysing => exact hsame rfl rfl

/-- After any calls, the graph is the prefix tree of what was pushed. -/
theorem Traced.tree_after (h : s.Traced t deeds) {past : List OpPath} (htree : s.tracer.graph.IsTreeOf past.eraseDups)
    (calls : List TraceCall) : (s.after calls).tracer.graph.IsTreeOf (past ++ s.pushes calls).eraseDups := by
  induction calls generalizing s deeds past with
  | nil =>
    rw [pushes, List.append_nil]
    exact htree
  | cons a calls ih =>
    obtain ⟨deeds', hcall⟩ := h.call a
    rw [pushes, ← List.append_assoc]
    exact ih hcall (h.tree_call htree a)

/-- **The graph of a pass is the prefix tree of what was pushed,** after any calls on its contexts. Its paths are those of
the different operations that were pushed, in the order in which each was first pushed. A node says what its operation is,
what that is in, and what was pushed right inside of it, in the same order; the roots are what was pushed outside of all
others. What an operation is in was found before it.

Where a context is, everything around it is in the graph, so nothing that is pushed next has a parent that is not. -/
theorem prefix_tree (pass : Pass) (emitted : List Message) (clock : Clock) (calls : List TraceCall) :
    let begun : Tracing ν := start (.start pass emitted clock)
    let s := begun.after calls
    let g := s.tracer.graph
    let found := (begun.pushes calls).eraseDups
    g.paths = found.map OpPath.text ∧
      (∀ p ∈ found, g.get? p.text =
        some ⟨p.id, pathOf p.around, (found.filter fun q => q.around = p.ids).map OpPath.text⟩) ∧
      (∀ p : OpPath, g.children p.text = (found.filter fun q => q.around = p.ids).map OpPath.text) ∧
      g.roots = (found.filter fun q => q.around = []).map OpPath.text ∧
      (∀ before p, before ++ [p] <+: found → p.around = [] ∨ ∃ q ∈ before, q.ids = p.around) ∧
      ∀ c ∈ s.root :: s.forks, ∀ around, around <+: c.path → ∀ path, pathOf around = some path → g.contains path := by
  intro begun s g found
  have hbegun : begun.Traced (.start pass emitted clock) [] := traced_start pass emitted clock
  have hempty : begun.tracer.graph.IsTreeOf ([] : List OpPath).eraseDups := OpGraph.isTreeOf_empty
  have htree : g.IsTreeOf found := hbegun.tree_after hempty calls
  obtain ⟨deeds, htraced⟩ := hbegun.after calls
  refine ⟨htree.paths, htree.node, htree.children, htree.roots, htree.parent, ?_⟩
  intro c hc around haround path hpath
  exact htraced.contains_around hc haround hpath

-- a fork goes on in an operation that is closed by then
example :
    let begun : Tracing Unit := start (.start .discovery [] ⟨⟨0, 0⟩, 0⟩)
    let s := begun.after [.take (.push 0 "" "a"), .take (.fork 0), .take (.pop 0 "" "a" .success),
      .take (.push 1 "a" "b"), .take (.push 0 "" "b")]
    s.tracer.graph.paths = ["a", "a/b", "b"] ∧ s.tracer.graph.roots = ["a", "b"] ∧
      s.tracer.graph.children "a" = ["a/b"] := by decide

end Tracing

end RunLedger
