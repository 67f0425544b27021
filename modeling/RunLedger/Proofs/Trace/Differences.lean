import RunLedger.Proofs.Trace.Boards
import RunLedger.Proofs.Trace.PrefixTree

/-!
# What differences of structure say

Two passes are compared by the paths of their graphs alone. That is enough: in a graph that a pass made, a path tells what
its operation is and what that is in (`Deed.Opens.unique`), so graphs with the same paths hold the same
(`OpGraph.MadeBy.matches_of_paths`). An operation that was moved is reported once, with one of the places where it is
missing.

* `StructureDiff.difference`: what the comparison of any two passes says.
-/

namespace RunLedger

/-! ## Graphs that are the same -/

namespace OpGraph

variable {g g' : OpGraph} {deeds deeds' : List Deed}

theorem sameElements_iff {a b : List String} : sameElements a b ↔ ∀ path, path ∈ a ↔ path ∈ b := by
  simp only [sameElements, Bool.and_eq_true, List.all_eq_true, List.contains_iff_mem]
  exact ⟨fun h path => ⟨h.1 path, h.2 path⟩, fun h => ⟨fun path => (h path).mp, fun path => (h path).mpr⟩⟩

/-- A path was found if there is an operation at it. -/
theorem mem_paths_iff {path : String} : path ∈ g.paths ↔ ∃ op, g.operation? path = some op := by
  rw [← contains_iff, operation?]
  constructor
  · intro h
    obtain ⟨n, hn⟩ := exists_get?_of_contains h
    exact ⟨_, by rw [hn, Option.map_some]⟩
  · rintro ⟨op, hop⟩
    obtain ⟨n, hn, -⟩ := Option.map_eq_some_iff.mp hop
    exact Option.isSome_iff_exists.mpr ⟨n, hn⟩

theorem children_of_get? {path : String} {n : OpNode} (h : g.get? path = some n) : g.children path = n.children := by
  rw [children, h]
  rfl

theorem children_of_notMem {path : String} (h : path ∉ g.paths) : g.children path = [] := by
  have hnone : g.get? path = none := OrderedMap.get?_eq_none_iff.mpr h
  rw [children, hnone]
  rfl

/-- The nodes of graphs say the same of a path. -/
structure SameAt (g g' : OpGraph) (path : String) : Prop where
  operation : g.operation? path = g'.operation? path
  children : ∀ child, child ∈ g.children path ↔ child ∈ g'.children path

theorem sameAt_iff {path : String} {n n' : OpNode} (hn : g.get? path = some n) (hn' : g'.get? path = some n') :
    g.SameAt g' path ↔
      (n.id = n'.id ∧ n.parent = n'.parent) ∧ ∀ child, child ∈ n.children ↔ child ∈ n'.children := by
  have hop : g.operation? path = g'.operation? path ↔ n.id = n'.id ∧ n.parent = n'.parent := by
    rw [operation?, operation?, hn, hn', Option.map_some, Option.map_some, Option.some.injEq, Prod.mk.injEq]
  rw [← hop, ← children_of_get? hn, ← children_of_get? hn']
  exact ⟨fun h => ⟨h.operation, h.children⟩, fun h => ⟨h.1, h.2⟩⟩

/-- Graphs say the same of a path that neither of them has. -/
theorem sameAt_of_notMem {path : String} (h : path ∉ g.paths) (h' : path ∉ g'.paths) : g.SameAt g' path := by
  have hnone : g.get? path = none := OrderedMap.get?_eq_none_iff.mpr h
  have hnone' : g'.get? path = none := OrderedMap.get?_eq_none_iff.mpr h'
  refine ⟨by rw [operation?, operation?, hnone, hnone'], fun child => ?_⟩
  rw [children_of_notMem h, children_of_notMem h']

/-- **Graphs are the same if they hold the same operations in the same places,** in whatever order. -/
theorem same_iff_matches : g.same g' ↔ g.Matches g' := by
  simp only [same, Bool.and_eq_true, sameElements_iff, List.all_eq_true]
  constructor
  · rintro ⟨⟨hroots, hpaths⟩, hnodes⟩
    have hall (path : String) : g.SameAt g' path := by
      by_cases hpath : path ∈ g.paths
      · have hpath' : path ∈ g'.paths := (hpaths path).mp hpath
        obtain ⟨n, hn⟩ := exists_get?_of_contains (contains_iff.mpr hpath)
        obtain ⟨n', hn'⟩ := exists_get?_of_contains (contains_iff.mpr hpath')
        have hnode := hnodes (path, n) (OrderedMap.get?_eq_some_iff.mp hn)
        simp only [hn', Bool.and_eq_true, decide_eq_true_eq, sameElements_iff] at hnode
        exact (sameAt_iff hn hn').mpr hnode
      · exact sameAt_of_notMem hpath fun hpath' => hpath ((hpaths path).mpr hpath')
    exact ⟨fun path => (hall path).operation, hroots, fun path => (hall path).children⟩
  · intro h
    have hpaths (path : String) : path ∈ g.paths ↔ path ∈ g'.paths := by
      rw [mem_paths_iff, mem_paths_iff, h.nodes]
    refine ⟨⟨h.roots, hpaths⟩, ?_⟩
    rintro ⟨path, n⟩ hmem
    have hn : g.get? path = some n := OrderedMap.get?_eq_some_iff.mpr hmem
    have hpath' : path ∈ g'.paths := (hpaths path).mp (List.mem_map_of_mem hmem)
    obtain ⟨n', hn'⟩ := exists_get?_of_contains (contains_iff.mpr hpath')
    simp only [hn', Bool.and_eq_true, decide_eq_true_eq, sameElements_iff]
    exact (sameAt_iff hn hn').mp ⟨h.nodes path, h.children path⟩

end OpGraph

/-! ## Graphs that passes made -/

/-- A path tells what its operation is, and what that is in. -/
theorem Deed.Opens.unique {deeds deeds' : List Deed} {path : String} {id id' : OperationId}
    {parent parent' : Option String} (h : Deed.Opens deeds path id parent) (h' : Deed.Opens deeds' path id' parent') :
    id = id' ∧ parent = parent' := by
  obtain ⟨around, -, hpath, rfl⟩ := h
  obtain ⟨around', -, hpath', rfl⟩ := h'
  obtain ⟨rfl, rfl⟩ := OperationId.joinPath_concat_inj (hpath.symm.trans hpath')
  exact ⟨rfl, rfl⟩

namespace OpGraph

variable {g g' : OpGraph} {deeds deeds' : List Deed}

theorem MadeBy.mem_paths_iff (h : g.MadeBy deeds) {path : String} :
    path ∈ g.paths ↔ ∃ id parent, Deed.Opens deeds path id parent := by
  simp only [OpGraph.mem_paths_iff, Prod.exists, h.nodes]

/-- **Graphs that passes made are the same if they have the same paths.** -/
theorem MadeBy.matches_of_paths (h : g.MadeBy deeds) (h' : g'.MadeBy deeds')
    (hpaths : ∀ path, path ∈ g.paths ↔ path ∈ g'.paths) : g.Matches g' := by
  have hopens (path : String) (id : OperationId) (parent : Option String) :
      Deed.Opens deeds path id parent ↔ Deed.Opens deeds' path id parent := by
    constructor
    · intro ho
      obtain ⟨id', parent', ho'⟩ := h'.mem_paths_iff.mp ((hpaths path).mp (h.mem_paths_iff.mpr ⟨id, parent, ho⟩))
      obtain ⟨rfl, rfl⟩ := ho.unique ho'
      exact ho'
    · intro ho
      obtain ⟨id', parent', ho'⟩ := h.mem_paths_iff.mp ((hpaths path).mpr (h'.mem_paths_iff.mpr ⟨id, parent, ho⟩))
      obtain ⟨rfl, rfl⟩ := ho.unique ho'
      exact ho'
  have hinside (parent : Option String) (path : String) : path ∈ g.inside parent ↔ path ∈ g'.inside parent := by
    simp only [h.inside, h'.inside, hopens]
  refine ⟨fun path => Option.ext fun ⟨id, parent⟩ => ?_, hinside none, fun path => hinside (some path)⟩
  rw [h.nodes, h'.nodes, hopens]

end OpGraph

/-! ## Differences -/

/-- What is left of a selection at one of different keys: what the element with this key was made into. -/
theorem filter_filterMap_of_mem {α β κ : Type} [DecidableEq κ] {key : α → κ} {key' : β → κ} {f : α → Option β}
    (hf : ∀ a b, f a = some b → key' b = key a) {as : List α} (hkeys : (as.map key).Nodup) {a : α} (ha : a ∈ as) :
    (as.filterMap f).filter (fun b => key' b = key a) = (f a).toList := by
  -- the elements with other keys are all dropped
  have hdropped (rest : List α) (hrest : key a ∉ rest.map key) :
      (rest.filterMap f).filter (fun b => key' b = key a) = [] := by
    rw [List.filter_eq_nil_iff]
    intro b hb hkey
    obtain ⟨c, hc, hfc⟩ := List.mem_filterMap.mp hb
    have hsame : key c = key a := (hf c b hfc).symm.trans (of_decide_eq_true hkey)
    exact hrest (hsame ▸ List.mem_map_of_mem hc)
  induction as with
  | nil => cases ha
  | cons c rest ih =>
    obtain ⟨hnew, hkeys⟩ := List.nodup_cons.mp hkeys
    obtain rfl | ha := List.mem_cons.mp ha
    · cases hfa : f a with
      | none =>
        rw [List.filterMap_cons_none hfa, hdropped rest hnew]
        rfl
      | some b =>
        rw [List.filterMap_cons_some hfa, List.filter_cons, if_pos (decide_eq_true (hf a b hfa)), hdropped rest hnew]
        rfl
    · have hne : key c ≠ key a := fun hsame => hnew (hsame ▸ List.mem_map_of_mem ha)
      cases hfc : f c with
      | none =>
        rw [List.filterMap_cons_none hfc]
        exact ih hkeys ha
      | some b =>
        have hother : ¬decide (key' b = key a) = true := fun hkey =>
          hne ((hf c b hfc).symm.trans (of_decide_eq_true hkey))
        rw [List.filterMap_cons_some hfc, List.filter_cons, if_neg hother]
        exact ih hkeys ha

namespace StructureDiff

open OpGraph (MadeBy)

variable {g g' : OpGraph} {deeds deeds' : List Deed}

/-- Graphs are consistent if they have the same paths. -/
theorem isConsistent_iff : (between g g').isConsistent ↔ ∀ path, path ∈ g.paths ↔ path ∈ g'.paths := by
  rw [isConsistent, Bool.and_eq_true, List.isEmpty_iff, List.isEmpty_iff, List.eq_nil_iff_forall_not_mem,
    List.eq_nil_iff_forall_not_mem]
  simp only [mem_missing_iff, mem_unexpected_iff, not_and, Classical.not_not]
  exact ⟨fun h path => ⟨h.1 path, h.2 path⟩, fun h => ⟨fun path => (h path).mp, fun path => (h path).mpr⟩⟩

/-- The report on an unexpected operation: the first missing one of the same name, if there is one. -/
def report? (g g' : OpGraph) (e : String × OpNode) : Option Reparented :=
  ((lacking g g').find? fun m => m.2.id = e.2.id).map fun m => ⟨e.2.id, m.1, e.1⟩

theorem reparented_eq (g g' : OpGraph) : (between g g').reparented = (lacking g' g).filterMap (report? g g') := rfl

theorem mem_fst_of_mem_lacking {e : String × OpNode} (he : e ∈ lacking g g') :
    e.1 ∈ (lacking g g').map Prod.fst ∧ g.operation? e.1 = some (e.2.id, e.2.parent) := by
  have hnode : g.get? e.1 = some e.2 := OrderedMap.get?_eq_some_iff.mpr (List.mem_filter.mp he).1
  exact ⟨List.mem_map_of_mem he, by rw [OpGraph.operation?, hnode]; rfl⟩

/-- An operation that a graph of a pass has and another one lacks, by its path. -/
theorem exists_path_of_mem_lacking (h : g.MadeBy deeds) {e : String × OpNode} (he : e ∈ lacking g g') :
    ∃ p : OpPath, e.1 = p.text ∧ e.2.id = p.id ∧ g.operation? e.1 = some (p.id, pathOf p.around) := by
  obtain ⟨-, hop⟩ := mem_fst_of_mem_lacking he
  obtain ⟨around, -, hpath, hparent⟩ := (h.nodes _ _ _).mp hop
  exact ⟨⟨around, e.2.id⟩, hpath, rfl, by rw [hop, hparent]⟩

/-- What is missing at a path that ends in some name. -/
theorem exists_missing_iff (h : g.MadeBy deeds) (id : OperationId) :
    (∃ m ∈ lacking g g', m.2.id = id) ↔ ∃ q : OpPath, q.id = id ∧ q.text ∈ (between g g').missing := by
  constructor
  · rintro ⟨m, hm, rfl⟩
    obtain ⟨q, hpath, hid, -⟩ := exists_path_of_mem_lacking h hm
    exact ⟨q, hid.symm, hpath ▸ (mem_fst_of_mem_lacking hm).1⟩
  · rintro ⟨q, rfl, hmissing⟩
    obtain ⟨m, hm, hpath⟩ := List.mem_map.mp hmissing
    obtain ⟨p, hpath', hid, -⟩ := exists_path_of_mem_lacking h hm
    obtain rfl := OpPath.text_inj (hpath'.symm.trans hpath)
    exact ⟨m, hm, hid⟩

/-- An operation that was moved: it is missing at one path and unexpected at another, both of which end in its name, and is
not in the same operation there. -/
structure Moved (g g' : OpGraph) (r : Reparented) : Prop where
  missing : r.discovered ∈ (between g g').missing
  unexpected : r.executed ∈ (between g g').unexpected
  places : ∃ p q : OpPath, r.discovered = p.text ∧ r.executed = q.text ∧
    g.operation? r.discovered = some (r.id, pathOf p.around) ∧ g'.operation? r.executed = some (r.id, pathOf q.around) ∧
    p.id = r.id ∧ q.id = r.id ∧ pathOf p.around ≠ pathOf q.around

theorem moved_of_mem_reparented (h : g.MadeBy deeds) (h' : g'.MadeBy deeds') {r : Reparented}
    (hr : r ∈ (between g g').reparented) : Moved g g' r := by
  rw [reparented_eq] at hr
  obtain ⟨e, he, hreport⟩ := List.mem_filterMap.mp hr
  obtain ⟨m, hfind, rfl⟩ := Option.map_eq_some_iff.mp hreport
  have hm : m ∈ lacking g g' := List.mem_of_find?_eq_some hfind
  have hname := List.find?_some hfind
  have hid : m.2.id = e.2.id := of_decide_eq_true hname
  have hmissing := (mem_fst_of_mem_lacking hm).1
  have hunexpected := (mem_fst_of_mem_lacking he).1
  obtain ⟨p, hpath, hpid, hop⟩ := exists_path_of_mem_lacking h hm
  obtain ⟨q, hpath', hqid, hop'⟩ := exists_path_of_mem_lacking h' he
  have hp : p.id = e.2.id := hpid.symm.trans hid
  rw [hp] at hop
  rw [← hqid] at hop'
  refine ⟨hmissing, hunexpected, p, q, hpath, hpath', hop, hop', hp, hqid.symm, fun hparents => ?_⟩
  -- in the same operation they would be at the same path, which is in both graphs then
  have hsame : m.1 = e.1 := by
    rw [hpath, hpath', OpPath.text, OpPath.text, OpPath.ids, OpPath.ids, pathOf_inj hparents, hp, hqid]
  exact (mem_missing_iff.mp hmissing).2 (hsame ▸ (mem_unexpected_iff.mp hunexpected).1)

/-- The reports on an unexpected operation: one if there is a missing one of the same name, and else none. -/
theorem reports_of_unexpected (h : g.MadeBy deeds) (h' : g'.MadeBy deeds') {path : String}
    (hpath : path ∈ (between g g').unexpected) :
    ∃ p : OpPath, path = p.text ∧
      let reports := (between g g').reparented.filter fun r => r.executed = path
      ((∃ q : OpPath, q.id = p.id ∧ q.text ∈ (between g g').missing) → ∃ r, reports = [r]) ∧
      ((∀ q : OpPath, q.id = p.id → q.text ∉ (between g g').missing) → reports = []) := by
  obtain ⟨e, he, rfl⟩ := List.mem_map.mp hpath
  obtain ⟨p, hat, hid, -⟩ := exists_path_of_mem_lacking h' he
  have hkeys : ((lacking g' g).map Prod.fst).Nodup := g'.nodes.nodup_keys.sublist (List.filter_sublist.map _)
  have hkey : ∀ e r, report? g g' e = some r → r.executed = e.1 := by
    intro e r hr
    obtain ⟨m, -, rfl⟩ := Option.map_eq_some_iff.mp hr
    rfl
  have hreports : (between g g').reparented.filter (fun r => r.executed = e.1) = (report? g g' e).toList := by
    rw [reparented_eq]
    exact filter_filterMap_of_mem hkey hkeys he
  refine ⟨p, hat, ?_⟩
  rw [hreports, ← hid]
  refine ⟨fun hmissing => ?_, fun hnone => ?_⟩
  · obtain ⟨m, hm, hname⟩ := (exists_missing_iff h e.2.id).mpr hmissing
    have hfound : ((lacking g g').find? fun m => m.2.id = e.2.id).isSome :=
      List.find?_isSome.mpr ⟨m, hm, decide_eq_true hname⟩
    obtain ⟨first, hfirst⟩ := Option.isSome_iff_exists.mp hfound
    exact ⟨⟨e.2.id, first.1, e.1⟩, by rw [report?, hfirst]; rfl⟩
  · have hnotFound : ((lacking g g').find? fun m => m.2.id = e.2.id) = none := by
      rw [List.find?_eq_none]
      intro m hm hname
      obtain ⟨q, hq, hmissing⟩ := (exists_missing_iff h e.2.id).mp ⟨m, hm, of_decide_eq_true hname⟩
      exact hnone q hq hmissing
    rw [report?, hnotFound]
    rfl

/-- **The comparison of two passes,** after any calls on the contexts of each. What is missing and what is unexpected are
the paths of the one graph that the other does not have, in their order. The passes are consistent exactly if their graphs
are the same. An operation that is reported as moved is missing in one place and unexpected in another; and there is one
report on an unexpected operation if some missing one has its name, and none if not. -/
theorem difference {ν ν' : Type} (pass pass' : Pass) (emitted emitted' : List Message) (clock clock' : Clock)
    (calls calls' : List TraceCall) :
    let g := ((Tracing.start (.start pass emitted clock) : Tracing ν).after calls).tracer.graph
    let g' := ((Tracing.start (.start pass' emitted' clock') : Tracing ν').after calls').tracer.graph
    let d := between g g'
    d.missing = g.paths.filter (· ∉ g'.paths) ∧ d.unexpected = g'.paths.filter (· ∉ g.paths) ∧
      (d.isConsistent ↔ g.same g') ∧ (∀ r ∈ d.reparented, Moved g g' r) ∧
      ∀ path ∈ d.unexpected, ∃ p : OpPath, path = p.text ∧
        let reports := d.reparented.filter fun r => r.executed = path
        ((∃ q : OpPath, q.id = p.id ∧ q.text ∈ d.missing) → ∃ r, reports = [r]) ∧
        ((∀ q : OpPath, q.id = p.id → q.text ∉ d.missing) → reports = []) := by
  intro g g' d
  obtain ⟨deeds, htraced⟩ := (Tracing.traced_start (ν := ν) pass emitted clock).after calls
  obtain ⟨deeds', htraced'⟩ := (Tracing.traced_start (ν := ν') pass' emitted' clock').after calls'
  have hmade : g.MadeBy deeds := htraced.made
  have hmade' : g'.MadeBy deeds' := htraced'.made
  refine ⟨paths_lacking g g', paths_lacking g' g, ?_, fun r hr => ?_, fun path hpath => ?_⟩
  · rw [isConsistent_iff, OpGraph.same_iff_matches]
    refine ⟨hmade.matches_of_paths hmade', fun hmatches path => ?_⟩
    rw [OpGraph.mem_paths_iff, OpGraph.mem_paths_iff, hmatches.nodes]
  · exact moved_of_mem_reparented hmade hmade' hr
  · exact reports_of_unexpected hmade hmade' hpath

end StructureDiff

end RunLedger
