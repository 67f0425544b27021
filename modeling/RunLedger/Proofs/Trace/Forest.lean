import Mathlib.Data.List.Flatten
import Mathlib.Data.List.Induction
import Mathlib.Data.List.Nodup
import Mathlib.Data.List.Perm.Subperm
import RunLedger.Proofs.Trace.Graph

/-!
# Graphs are forests

An operation may be recorded below any path: one that was not found, one that is found later, or its own. In every case
the graph that results is a forest (`OpGraph.IsForest`). Every path is listed once among the roots and the children of all
operations, and a path that is no root is a child of one that was found earlier. That is kept because a new path is listed
in one place, which its parent decides (`OpGraph.owner`, `OpGraph.inside_attach`), and comes last in the order of
discovery.

A walk goes from the roots through the children and takes what it met in any order (`OpGraph.Walk`). In a forest it meets
nothing twice and comes to everything.

* `OpGraph.forest_after`: what the graph lists and what walks visit, whatever was recorded.
-/

namespace RunLedger

/-- An operation that is to be recorded, below a parent or outside of all others. -/
structure Finding where
  parent : Option String
  path : String
  id : OperationId

namespace OpGraph

/-- The graph after an operation was recorded. -/
def recorded (g : OpGraph) (f : Finding) : OpGraph := (g.record f.parent f.path f.id).1

/-- The graph after some operations were recorded. -/
def after (g : OpGraph) (findings : List Finding) : OpGraph := findings.foldl recorded g

/-- The roots and the children of all operations. -/
def listed (g : OpGraph) : List String := g.roots ++ g.paths.flatMap g.children

/-- Where an operation with such a parent is put: below the parent if that was found, else outside of all others. -/
def owner (g : OpGraph) (parent : Option String) : Option String := parent.filter g.contains

/-- What a walk visited, in order, and what it met and is still to visit. Any of these may be next. -/
inductive Walk (g : OpGraph) : List String → List String → Prop
  | start : Walk g [] g.roots
  | visit {visited before behind met : List String} {path : String} :
      Walk g visited (before ++ path :: behind) → met.Perm (before ++ behind ++ g.children path) →
      Walk g (visited ++ [path]) met

/-- A graph in which every path is listed once, and either as a root or below an earlier path. -/
structure IsForest (g : OpGraph) : Prop where
  listed : g.listed.Perm g.paths
  earlier : ∀ before path, before ++ [path] <+: g.paths → path ∈ g.roots ∨ ∃ q ∈ before, path ∈ g.children q

variable {g : OpGraph} {path : String}

/-! ## Where a new path is listed -/

theorem addTo_of_notMem {paths : List String} (h : path ∉ paths) : addTo paths path = paths ++ [path] := if_neg h

theorem children_of_not_contains (h : g.contains path = false) : g.children path = [] := by
  rw [children, get?_of_not_contains h]
  rfl

theorem owner_ne_of_not_contains (h : g.contains path = false) (parent : Option String) :
    g.owner parent ≠ some path := by
  intro ho
  have hfound := (Option.filter_eq_some_iff.mp ho).2
  rw [h] at hfound
  cases hfound

/-- A parent that was not found is as good as none. -/
theorem attach_unowned {parent : Option String} (h : g.owner parent = none) (path : String) (id : OperationId) :
    g.attach parent path id = ⟨g.nodes.set path ⟨id, parent, []⟩, addTo g.roots path⟩ := by
  cases parent with
  | none => rfl
  | some q =>
    have hq : g.contains q = false := by simpa [owner] using h
    rw [attach, Option.bind_some, get?_of_not_contains hq]
    rfl

/-- **A new path is listed in one place,** behind what was listed there. -/
theorem inside_attach (hnew : g.contains path = false) (hlisted : path ∉ g.listed) (parent : Option String)
    (id : OperationId) (outer : Option String) :
    (g.attach parent path id).inside outer =
      if outer = g.owner parent then g.inside outer ++ [path] else g.inside outer := by
  obtain ⟨hroots, hchildren⟩ := not_or.mp (mt List.mem_append.mpr hlisted)
  cases ho : g.owner parent with
  | none =>
    rw [attach_unowned ho]
    cases outer with
    | none => rw [if_pos rfl, inside, addTo_of_notMem hroots]; rfl
    | some p =>
      rw [if_neg (Option.some_ne_none p)]
      simp only [inside, children, get?, OrderedMap.get?_set]
      split
      · rename_i hp
        subst hp
        exact (children_of_not_contains hnew).symm
      · rfl
  | some q =>
    obtain ⟨rfl, hq⟩ := Option.filter_eq_some_iff.mp ho
    obtain ⟨n, hn⟩ := exists_get?_of_contains hq
    have hchild : path ∉ n.children := by
      have hmem : path ∉ g.children q := fun h => hchildren (List.mem_flatMap.mpr ⟨q, contains_iff.mp hq, h⟩)
      rwa [children, hn] at hmem
    cases outer with
    | none => rw [attach_inside hn, if_neg (Option.some_ne_none q).symm]; rfl
    | some p =>
      simp only [inside, children, get?_attach_inside hn, Option.some.injEq]
      split
      · rename_i hp
        subst hp
        have hne : path ≠ q := by
          rintro rfl
          rw [hq] at hnew
          cases hnew
        rw [if_neg hne, get?_of_not_contains hnew]
        rfl
      · split
        · rename_i hqp
          subst hqp
          rw [if_pos rfl, hn]
          exact addTo_of_notMem hchild
        · rename_i hqp
          rw [if_neg (Ne.symm hqp)]

/-! ## Recording keeps the forest -/

theorem IsForest.notMem_listed (h : g.IsForest) (hnew : path ∉ g.paths) : path ∉ g.listed := fun hmem =>
  hnew (h.listed.mem_iff.mp hmem)

theorem roots_attach (hnew : g.contains path = false) (hlisted : path ∉ g.listed) (parent : Option String)
    (id : OperationId) :
    (g.attach parent path id).roots = if none = g.owner parent then g.roots ++ [path] else g.roots :=
  inside_attach hnew hlisted parent id none

theorem children_attach (hnew : g.contains path = false) (hlisted : path ∉ g.listed) (parent : Option String)
    (id : OperationId) (other : String) :
    (g.attach parent path id).children other =
      if some other = g.owner parent then g.children other ++ [path] else g.children other :=
  inside_attach hnew hlisted parent id (some other)

/-- One more child of one element of a list, which occurs once there, is one more child of them all. -/
theorem flatMap_perm_of_grown {f f' : String → List String} {L : List String} {q : String} (hq : q ∈ L)
    (hnodup : L.Nodup) (hself : f' q = f q ++ [path]) (hother : ∀ p, p ≠ q → f' p = f p) :
    (L.flatMap f').Perm (L.flatMap f ++ [path]) := by
  obtain ⟨before, behind, rfl⟩ := List.append_of_mem hq
  have hne : ∀ p ∈ before ++ behind, p ≠ q := by
    intro p hp he
    subst he
    exact (List.nodup_cons.mp (List.nodup_middle.mp hnodup)).1 hp
  have hbefore : before.flatMap f' = before.flatMap f :=
    List.flatMap_congr fun p hp => hother p (hne p (List.mem_append_left _ hp))
  have hbehind : behind.flatMap f' = behind.flatMap f :=
    List.flatMap_congr fun p hp => hother p (hne p (List.mem_append_right _ hp))
  simp only [List.flatMap_append, List.flatMap_cons, hbefore, hbehind, hself, List.append_assoc]
  exact (List.perm_append_comm.append_left _).append_left _

/-- What is listed after a new path was recorded. -/
theorem perm_listed_attach {parent : Option String} {id : OperationId} (hnew : g.contains path = false) (hlisted : path ∉ g.listed)
    (hpaths : (g.attach parent path id).paths = g.paths ++ [path]) :
    (g.attach parent path id).listed.Perm (g.listed ++ [path]) := by
  have hroots := roots_attach hnew hlisted parent id
  have hchildren := children_attach hnew hlisted parent id
  have hlast : (g.attach parent path id).children path = [] := by
    rw [hchildren, if_neg (owner_ne_of_not_contains hnew parent).symm, children_of_not_contains hnew]
  simp only [listed, hpaths, List.flatMap_append, List.flatMap_singleton, hlast, List.append_nil]
  cases ho : g.owner parent with
  | none =>
    rw [ho] at hroots hchildren
    have hsame : (g.attach parent path id).children = g.children := funext fun p => by rw [hchildren, if_neg nofun]
    rw [hroots, if_pos rfl, hsame, List.append_assoc, List.append_assoc]
    exact List.perm_append_comm.append_left _
  | some q =>
    rw [ho] at hroots hchildren
    have hq : q ∈ g.paths := contains_iff.mp (Option.filter_eq_some_iff.mp ho).2
    rw [hroots, if_neg nofun, List.append_assoc]
    refine (flatMap_perm_of_grown hq g.nodes.nodup_keys ?_ ?_).append_left _
    · rw [hchildren, if_pos rfl]
    · intro p hp
      rw [hchildren, if_neg (by simpa using hp)]

theorem paths_attach (hnew : g.contains path = false) (parent : Option String) (id : OperationId) :
    (g.attach parent path id).paths = g.paths ++ [path] := by
  have hpath : path ∉ g.paths := fun h => by rw [contains_iff.mpr h] at hnew; cases hnew
  have hpaths := paths_insert g parent path id
  rwa [insert, hnew, if_neg hpath] at hpaths

/-- What is listed somewhere stays listed there. -/
theorem mem_inside_attach_of_mem (hnew : g.contains path = false) (hlisted : path ∉ g.listed) (parent : Option String)
    (id : OperationId) (outer : Option String) {other : String} (h : other ∈ g.inside outer) :
    other ∈ (g.attach parent path id).inside outer := by
  rw [inside_attach hnew hlisted]
  split
  · exact List.mem_append_left _ h
  · exact h

/-- **Recording an operation keeps a graph a forest,** wherever it is to be put. -/
theorem IsForest.insert (h : g.IsForest) (parent : Option String) (path : String) (id : OperationId) :
    (g.insert parent path id).IsForest := by
  cases hnew : g.contains path with
  | true =>
    rw [insert_of_contains hnew]
    exact h
  | false =>
    have hattach : g.insert parent path id = g.attach parent path id := by
      rw [OpGraph.insert, hnew]
      rfl
    have hpath : path ∉ g.paths := fun hp => by rw [contains_iff.mpr hp] at hnew; cases hnew
    have hlisted := h.notMem_listed hpath
    have hpaths := paths_attach hnew parent id
    rw [hattach]
    constructor
    · rw [hpaths]
      exact (perm_listed_attach hnew hlisted hpaths).trans (h.listed.append_right _)
    · intro before other hprefix
      rw [hpaths] at hprefix
      rcases List.prefix_concat_iff.mp hprefix with heq | hprefix
      · -- the new path is put below one that was found, so before it
        obtain ⟨rfl, hother⟩ := List.append_inj' heq rfl
        obtain rfl := List.singleton_inj.mp hother
        have hmem : other ∈ (g.attach parent other id).inside (g.owner parent) := by
          rw [inside_attach hnew hlisted, if_pos rfl]
          exact List.mem_append_right _ (List.mem_singleton_self _)
        cases ho : g.owner parent with
        | none =>
          rw [ho] at hmem
          exact .inl hmem
        | some q =>
          rw [ho] at hmem
          exact .inr ⟨q, contains_iff.mp (Option.filter_eq_some_iff.mp ho).2, hmem⟩
      · rcases h.earlier before other hprefix with hroot | ⟨q, hq, hchild⟩
        · exact .inl (mem_inside_attach_of_mem hnew hlisted parent id none hroot)
        · exact .inr ⟨q, hq, mem_inside_attach_of_mem hnew hlisted parent id (some q) hchild⟩

theorem isForest_empty : empty.IsForest where
  listed := .nil
  earlier _ _ h := absurd (List.prefix_nil.mp h) (List.append_ne_nil_of_right_ne_nil _ (List.cons_ne_nil _ _))

/-- Whatever is recorded, a forest stays one. -/
theorem IsForest.after (h : g.IsForest) (findings : List Finding) : (g.after findings).IsForest := by
  induction findings generalizing g with
  | nil => exact h
  | cons f findings ih => exact ih (h.insert f.parent f.path f.id)

/-! ## Walks -/

/-- What a walk met are the roots and the children of what it visited. -/
theorem Walk.perm {visited met : List String} (h : g.Walk visited met) :
    (visited ++ met).Perm (g.roots ++ visited.flatMap g.children) := by
  induction h with
  | start => simp
  | @visit visited before behind met path _ hmet ih =>
    have hmoved : (path :: (before ++ (behind ++ g.children path))).Perm (before ++ path :: (behind ++ g.children path)) :=
      List.perm_middle.symm
    rw [List.flatMap_append, List.flatMap_singleton, ← List.append_assoc]
    refine List.Perm.trans ?_ (ih.append_right _)
    refine (hmet.append_left _).trans ?_
    simp only [List.append_assoc, List.cons_append]
    exact hmoved.append_left _

variable {visited met : List String}

/-- What was visited, each path once, has its children in their places in the list of all. -/
theorem IsForest.subperm_of_visited (h : g.IsForest) (hw : g.Walk visited met) (hv : visited.Subperm g.paths) :
    (visited ++ met).Subperm g.paths := by
  obtain ⟨L, hL, hsub⟩ := hv
  have hchildren : (visited.flatMap g.children).Subperm (g.paths.flatMap g.children) :=
    ⟨L.flatMap g.children, hL.flatMap_right _, hsub.flatMap _⟩
  have hlisted : (g.roots ++ visited.flatMap g.children).Subperm g.listed :=
    (List.subperm_append_left g.roots).mpr hchildren
  exact (hw.perm.subperm.trans hlisted).trans h.listed.subperm

/-- **A walk through a forest meets nothing twice,** and nothing that was not recorded. -/
theorem IsForest.subperm_of_walk (h : g.IsForest) (hw : g.Walk visited met) : (visited ++ met).Subperm g.paths := by
  induction hw with
  | start => exact h.subperm_of_visited .start List.nil_subperm
  | @visit visited before behind met path hw hmet ih =>
    refine h.subperm_of_visited (.visit hw hmet) (List.Subperm.trans (List.Sublist.subperm ?_) ih)
    refine List.Sublist.append_left ?_ visited
    exact List.singleton_sublist.mpr (List.mem_append_right _ List.mem_cons_self)

theorem IsForest.subperm_visited (h : g.IsForest) (hw : g.Walk visited met) : visited.Subperm g.paths :=
  (List.sublist_append_left visited met).subperm.trans (h.subperm_of_walk hw)

/-- A walk that met nothing more was at every path that comes before some place in the order of discovery. -/
theorem IsForest.mem_visited (h : g.IsForest) (hw : g.Walk visited []) {front : List String} (hfront : front <+: g.paths)
    {path : String} (hpath : path ∈ front) : path ∈ visited := by
  induction front using List.reverseRecOn generalizing path with
  | nil => cases hpath
  | append_singleton before last ih =>
    have hall := hw.perm
    rw [List.append_nil] at hall
    have ih {p : String} (hp : p ∈ before) : p ∈ visited := ih ((List.prefix_append _ _).trans hfront) hp
    rcases List.mem_append.mp hpath with hpath | hpath
    · exact ih hpath
    · obtain rfl := List.mem_singleton.mp hpath
      apply hall.mem_iff.mpr
      rcases h.earlier before path hfront with hroot | ⟨q, hq, hchild⟩
      · exact List.mem_append_left _ hroot
      · exact List.mem_append_right _ (List.mem_flatMap.mpr ⟨q, ih hq, hchild⟩)

/-- **A walk that met nothing more was everywhere.** -/
theorem IsForest.perm_visited (h : g.IsForest) (hw : g.Walk visited []) : visited.Perm g.paths := by
  have hback : g.paths.Subperm visited :=
    List.subperm_of_subset g.nodes.nodup_keys fun _ hp => h.mem_visited hw (List.prefix_refl _) hp
  exact (h.subperm_visited hw).antisymm hback

/-- Every walk goes on to its end. -/
theorem IsForest.exists_end (h : g.IsForest) (hw : g.Walk visited met) : ∃ more, g.Walk (visited ++ more) [] := by
  induction hn : g.paths.length - visited.length using Nat.strongRecOn generalizing visited met with
  | ind n ih =>
    cases met with
    | nil => exact ⟨[], by rwa [List.append_nil]⟩
    | cons path behind =>
      have hnext : g.Walk (visited ++ [path]) ([] ++ behind ++ g.children path) := .visit hw (.refl _)
      have hlength := (h.subperm_visited hnext).length_le
      rw [List.length_append, List.length_singleton] at hlength
      obtain ⟨more, hmore⟩ := ih (g.paths.length - (visited ++ [path]).length) (by simp; omega) hnext rfl
      exact ⟨path :: more, by rwa [List.append_assoc] at hmore⟩

/-- The paths are those that were recorded, in the order in which each was first recorded. -/
theorem paths_after (findings : List Finding) : (empty.after findings).paths = (findings.map Finding.path).eraseDups :=
  eraseDups_of_foldl (fun g f => g.paths_insert f.parent f.path f.id) (show empty.paths = [].eraseDups from rfl)
    findings

/-- **Whatever is recorded, the graph is a forest.** The parents of what is recorded may be paths that are found later or
never, or the path itself. Each path that was recorded occurs once among the roots and the children of all operations, and
nothing else occurs there. A walk from the roots through the children, in any order, visits no path twice; it goes on to
an end, after at most as many steps as there are paths, and then it was everywhere. A path that is known is not new, and
recording it again changes nothing. -/
theorem forest_after (findings : List Finding) :
    let g := empty.after findings
    g.paths = (findings.map Finding.path).eraseDups ∧
      (∀ path ∈ g.paths, g.listed.count path = 1) ∧
      (∀ path ∈ g.listed, path ∈ g.paths) ∧
      (∀ visited met, g.Walk visited met →
        visited.Nodup ∧ (∀ path ∈ visited, path ∈ g.paths) ∧ visited.length ≤ g.paths.length ∧
          (∃ more, g.Walk (visited ++ more) []) ∧ (met = [] → visited.Perm g.paths)) ∧
      ∀ path parent id, ((g.record parent path id).2 = false ↔ path ∈ g.paths) ∧
        (path ∈ g.paths → g.record parent path id = (g, false)) := by
  intro g
  have h : g.IsForest := isForest_empty.after findings
  have hnodup : g.paths.Nodup := g.nodes.nodup_keys
  refine ⟨paths_after findings, ?_, fun path hpath => h.listed.mem_iff.mp hpath, ?_, ?_⟩
  · intro path hpath
    rw [h.listed.count_eq]
    exact List.count_eq_one_of_mem hnodup hpath
  · intro visited met hw
    have hsub := h.subperm_visited hw
    obtain ⟨L, hL, hprefix⟩ := id hsub
    refine ⟨hL.nodup_iff.mp (hnodup.sublist hprefix), fun path hpath => hsub.subset hpath, hsub.length_le,
      h.exists_end hw, ?_⟩
    rintro rfl
    exact h.perm_visited hw
  · intro path parent id
    have hnew : (g.record parent path id).2 = false ↔ path ∈ g.paths := by
      rw [← contains_iff, record, Bool.not_eq_false']
    refine ⟨hnew, fun hpath => ?_⟩
    exact Prod.ext (insert_of_contains (contains_iff.mpr hpath) parent id) (hnew.mpr hpath)

-- a parent that is found later, one that was found then, and an operation that is said to be in itself
example :
    let g := empty.after [⟨some "b", "a", ⟨"x", by decide, by decide⟩⟩, ⟨some "a", "b", ⟨"x", by decide, by decide⟩⟩,
      ⟨some "c", "c", ⟨"x", by decide, by decide⟩⟩]
    g.roots = ["a", "c"] ∧ g.children "a" = ["b"] ∧ g.children "b" = [] ∧ g.children "c" = [] := by decide

end OpGraph

end RunLedger
