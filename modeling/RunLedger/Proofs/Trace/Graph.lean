import RunLedger.Proofs.Identifier.Path
import RunLedger.Proofs.Trace.Deeds

/-!
# What a graph holds

Seen without the order of its nodes, roots and children, a graph holds the operations that were opened and says of each
what it was opened in (`OpGraph.MadeBy`), if nothing is opened in an operation that was not opened before
(`OpGraph.MadeBy.record`). In which order they were opened does not matter (`OpGraph.MadeBy.matches`), because a path
stands for one list of operations only.
-/

namespace RunLedger

theorem pathOf_append (around : List OperationId) (id : OperationId) :
    pathOf (around ++ [id]) = some (OperationId.joinPath (around ++ [id])) := by
  simp [pathOf]

/-- Some deeds open an operation at a path, in the one at another path or outside all others. -/
def Deed.Opens (deeds : List Deed) (path : String) (id : OperationId) (parent : Option String) : Prop :=
  ∃ around, .opened around id ∈ deeds ∧ path = OperationId.joinPath (around ++ [id]) ∧ parent = pathOf around

theorem Deed.opens_concat {deeds : List Deed} {around : List OperationId} {id id' : OperationId} {path : String}
    {parent : Option String} : Opens (deeds ++ [.opened around id]) path id' parent ↔ Opens deeds path id' parent ∨
      path = OperationId.joinPath (around ++ [id]) ∧ id' = id ∧ parent = pathOf around := by
  simp only [Opens, List.mem_append, List.mem_singleton, Deed.opened.injEq]
  constructor
  · rintro ⟨around', hmem | ⟨rfl, rfl⟩, hpath, hparent⟩
    · exact .inl ⟨around', hmem, hpath, hparent⟩
    · exact .inr ⟨hpath, rfl, hparent⟩
  · rintro (⟨around', hmem, hpath, hparent⟩ | ⟨hpath, rfl, hparent⟩)
    · exact ⟨around', .inl hmem, hpath, hparent⟩
    · exact ⟨around, .inr ⟨rfl, rfl⟩, hpath, hparent⟩

namespace OpGraph

/-- The operation at a path, and the path of the one around it. -/
def operation? (g : OpGraph) (path : String) : Option (OperationId × Option String) :=
  (g.get? path).map fun n => (n.id, n.parent)

/-- The paths of the operations in another one, or outside all others. -/
def inside (g : OpGraph) : Option String → List String
  | none => g.roots
  | some path => g.children path

/-- Graphs with the same operations in the same places, in whatever order. -/
structure Matches (g g' : OpGraph) : Prop where
  nodes : ∀ path, g.operation? path = g'.operation? path
  roots : ∀ path, path ∈ g.roots ↔ path ∈ g'.roots
  children : ∀ path child, child ∈ g.children path ↔ child ∈ g'.children path

/-- A graph that holds the operations that some deeds opened. -/
structure MadeBy (g : OpGraph) (deeds : List Deed) : Prop where
  nodes : ∀ path id parent, g.operation? path = some (id, parent) ↔ Deed.Opens deeds path id parent
  inside : ∀ parent path, path ∈ g.inside parent ↔ ∃ id, Deed.Opens deeds path id parent

variable {g g' : OpGraph} {path : String} {parent : Option String} {id : OperationId}

theorem mem_addTo {paths : List String} {path other : String} :
    other ∈ addTo paths path ↔ other ∈ paths ∨ other = path := by
  rw [addTo]
  split
  · rename_i hpath
    exact ⟨.inl, fun h => h.elim (fun h => h) fun he => he ▸ hpath⟩
  · rw [List.mem_append, List.mem_singleton]

theorem exists_get?_of_contains (h : g.contains path) : ∃ n, g.get? path = some n := Option.isSome_iff_exists.mp h

theorem get?_of_not_contains (h : g.contains path = false) : g.get? path = none := by
  rwa [contains, OrderedMap.contains, Option.isSome_eq_false_iff, Option.isNone_iff_eq_none] at h

theorem get?_attach_root (g : OpGraph) (path : String) (id : OperationId) (other : String) :
    (g.attach none path id).get? other = if path = other then some ⟨id, none, []⟩ else g.get? other :=
  OrderedMap.get?_set g.nodes path other _

theorem attach_inside {q : String} {n : OpNode} (h : g.get? q = some n) (path : String) (id : OperationId) :
    g.attach (some q) path id =
      ⟨(g.nodes.set q { n with children := addTo n.children path }).set path ⟨id, some q, []⟩, g.roots⟩ := by
  rw [attach, Option.bind_some, h]
  rfl

theorem get?_attach_inside {q : String} {n : OpNode} (h : g.get? q = some n) (path : String) (id : OperationId)
    (other : String) :
    (g.attach (some q) path id).get? other = if path = other then some ⟨id, some q, []⟩
      else if q = other then some { n with children := addTo n.children path } else g.get? other := by
  rw [attach_inside h, get?, OrderedMap.get?_set, OrderedMap.get?_set]
  rfl

/-- An operation that is added in one that was found is there, and the others are as before. -/
theorem operation?_attach (hparent : ∀ q, parent = some q → g.contains q) (path : String) (id : OperationId)
    (other : String) :
    (g.attach parent path id).operation? other = if path = other then some (id, parent) else g.operation? other := by
  cases parent with
  | none =>
    rw [operation?, get?_attach_root]
    split <;> rfl
  | some q =>
    obtain ⟨n, hn⟩ := exists_get?_of_contains (hparent q rfl)
    rw [operation?, get?_attach_inside hn]
    split
    · rfl
    · split
      · rename_i hq
        rw [operation?, ← hq, hn]
        rfl
      · rfl

/-- A new operation is added in one other, or outside all others. -/
theorem mem_inside_attach (hnew : g.contains path = false) (hparent : ∀ q, parent = some q → g.contains q)
    (id : OperationId) (outer : Option String) (other : String) :
    other ∈ (g.attach parent path id).inside outer ↔ other ∈ g.inside outer ∨ other = path ∧ outer = parent := by
  have hnone := get?_of_not_contains hnew
  cases parent with
  | none =>
    cases outer with
    | none =>
      simp only [inside, and_true]
      exact mem_addTo
    | some p =>
      simp only [inside, children, get?_attach_root, reduceCtorEq, and_false, or_false]
      split
      · rename_i hp
        rw [← hp, hnone]
        rfl
      · rfl
  | some q =>
    obtain ⟨n, hn⟩ := exists_get?_of_contains (hparent q rfl)
    cases outer with
    | none => simp only [inside, attach_inside hn, reduceCtorEq, and_false, or_false]
    | some p =>
      simp only [inside, children, get?_attach_inside hn, Option.some.injEq]
      split
      · rename_i hp
        have hne : p ≠ q := by
          rintro rfl
          rw [hp, hn] at hnone
          cases hnone
        rw [← hp, hnone]
        simp [hp, hne]
      · split
        · rename_i hq
          subst hq
          rw [hn]
          simp only [and_true]
          exact mem_addTo
        · rename_i hne
          simp [Ne.symm hne]

/-- A path that was found stands for one operation only. -/
theorem MadeBy.opens_of_contains {deeds : List Deed} {around : List OperationId} (h : g.MadeBy deeds)
    (hfound : g.contains (OperationId.joinPath (around ++ [id]))) :
    Deed.Opens deeds (OperationId.joinPath (around ++ [id])) id (pathOf around) := by
  obtain ⟨n, hn⟩ := exists_get?_of_contains hfound
  obtain ⟨around', hmem, hpath, -⟩ := (h.nodes _ n.id n.parent).mp (by rw [operation?, hn]; rfl)
  obtain ⟨rfl, rfl⟩ := OperationId.joinPath_concat_inj hpath
  exact ⟨around, hmem, rfl, rfl⟩

/-- A graph that was made by some deeds, and an operation that is opened then in one that was found. -/
theorem MadeBy.record {deeds : List Deed} {around : List OperationId} (h : g.MadeBy deeds)
    (hfound : ∀ q, pathOf around = some q → g.contains q) (id : OperationId) :
    (Deed.record g (.opened around id)).MadeBy (deeds ++ [.opened around id]) := by
  cases hnew : g.contains (OperationId.joinPath (around ++ [id])) with
  | true =>
    have hopens (path : String) (id' : OperationId) (parent : Option String) :
        Deed.Opens (deeds ++ [.opened around id]) path id' parent ↔ Deed.Opens deeds path id' parent := by
      rw [Deed.opens_concat, or_iff_left_iff_imp]
      rintro ⟨rfl, rfl, rfl⟩
      exact h.opens_of_contains hnew
    rw [Deed.record, insert_of_contains hnew]
    exact ⟨fun path id' parent => by rw [hopens, h.nodes], fun parent path => by simp only [hopens, h.inside]⟩
  | false =>
    have hattach : Deed.record g (.opened around id) =
        g.attach (pathOf around) (OperationId.joinPath (around ++ [id])) id := by
      rw [Deed.record, insert, hnew]
      rfl
    rw [hattach]
    constructor
    · intro path id' parent
      rw [operation?_attach hfound, Deed.opens_concat, ← h.nodes]
      split
      · rename_i hpath
        have hnone : g.operation? path = none := by
          rw [operation?, ← hpath, get?_of_not_contains hnew]
          rfl
        simp [hnone, hpath, eq_comm]
      · rename_i hpath
        simp [Ne.symm hpath]
    · intro parent path
      rw [mem_inside_attach hnew hfound, h.inside]
      simp only [Deed.opens_concat, exists_or]
      simp

theorem madeBy_empty : empty.MadeBy [] := by
  refine ⟨fun path id parent => ⟨nofun, nofun⟩, fun parent path => ⟨fun h => ?_, nofun⟩⟩
  cases parent <;> cases h

/-- What is closed does not change the graph. -/
theorem MadeBy.closed {deeds : List Deed} (h : g.MadeBy deeds) (around : List OperationId) (id : OperationId)
    (outcome : Outcome) : g.MadeBy (deeds ++ [.closed around id outcome]) := by
  have hopens (path : String) (id' : OperationId) (parent : Option String) :
      Deed.Opens (deeds ++ [.closed around id outcome]) path id' parent ↔ Deed.Opens deeds path id' parent := by
    simp [Deed.Opens]
  exact ⟨fun path id' parent => by rw [hopens, h.nodes], fun parent path => by simp only [hopens, h.inside]⟩

/-- Deeds in another order make a graph that matches. -/
theorem MadeBy.matches {deeds deeds' : List Deed} (h : g.MadeBy deeds) (h' : g'.MadeBy deeds')
    (hdeeds : deeds.Perm deeds') : g.Matches g' := by
  have hopens (path : String) (id : OperationId) (parent : Option String) :
      Deed.Opens deeds path id parent ↔ Deed.Opens deeds' path id parent := by
    simp only [Deed.Opens, hdeeds.mem_iff]
  have hinside (parent : Option String) (path : String) : path ∈ g.inside parent ↔ path ∈ g'.inside parent := by
    simp only [h.inside, h'.inside, hopens]
  refine ⟨fun path => Option.ext fun ⟨id, parent⟩ => ?_, hinside none, fun path => hinside (some path)⟩
  rw [h.nodes, h'.nodes, hopens]

theorem mem_tasks {task : Task} :
    task ∈ g.tasks ↔ ∃ path id parent, g.operation? path = some (id, parent) ∧ task = Task.new path id.name := by
  simp only [tasks, operation?, get?, List.mem_map, Option.map_eq_some_iff, Prod.mk.injEq]
  constructor
  · rintro ⟨⟨path, n⟩, he, rfl⟩
    exact ⟨path, n.id, n.parent, ⟨n, OrderedMap.get?_eq_some_iff.mpr he, rfl, rfl⟩, rfl⟩
  · rintro ⟨path, _, _, ⟨n, hn, rfl, rfl⟩, rfl⟩
    exact ⟨(path, n), OrderedMap.get?_eq_some_iff.mp hn, rfl⟩

theorem nodup_tasks (g : OpGraph) : g.tasks.Nodup := by
  have hids : (g.tasks.map Task.id).Nodup := by
    rw [tasks, List.map_map]
    exact g.nodes.nodup_keys
  exact List.Pairwise.of_map Task.id (fun t u hne he => hne (he ▸ rfl)) hids

/-- Graphs that match have the same tasks, in whatever order. -/
theorem Matches.tasks (h : g.Matches g') : g.tasks.Perm g'.tasks := by
  refine (List.perm_ext_iff_of_nodup g.nodup_tasks g'.nodup_tasks).mpr fun task => ?_
  simp only [mem_tasks, h.nodes]

end OpGraph

end RunLedger
