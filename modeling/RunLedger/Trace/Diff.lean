import RunLedger.Trace.Graph

/-!
# Differences of structure

What one graph of operations has and another lacks. An operation that is found under another path with the same name in
the other graph was moved.

* `mem_missing_iff`, `mem_unexpected_iff`: the two lists are the differences of the sets of paths.
-/

namespace RunLedger

/-- An operation found under another path than before. -/
structure Reparented where
  id : OperationId
  discovered : String
  executed : String
  deriving DecidableEq

/-- The difference of what was discovered and what was executed. -/
structure StructureDiff where
  /-- Discovered and not executed. -/
  missing : List String
  /-- Executed and not discovered. -/
  unexpected : List String
  /-- Unexpected operations with the first missing one of the same name. -/
  reparented : List Reparented
  deriving DecidableEq

namespace StructureDiff

/-- The operations of a graph whose paths another graph lacks. -/
def lacking (g other : OpGraph) : List (String × OpNode) := g.nodes.entries.filter fun e => !other.contains e.1

/-- Compares two graphs. -/
def between (discovered executed : OpGraph) : StructureDiff :=
  let missing := lacking discovered executed
  let unexpected := lacking executed discovered
  let reparented := unexpected.filterMap fun (path, node) =>
    (missing.find? fun e => e.2.id = node.id).map fun (previous, _) => ⟨node.id, previous, path⟩
  ⟨missing.map Prod.fst, unexpected.map Prod.fst, reparented⟩

/-- Whether the same paths were discovered and executed. -/
def isConsistent (d : StructureDiff) : Bool := d.missing.isEmpty && d.unexpected.isEmpty

theorem mem_lacking_iff {g other : OpGraph} {p : String} :
    p ∈ (lacking g other).map Prod.fst ↔ p ∈ g.paths ∧ p ∉ other.paths := by
  rw [← OpGraph.contains_iff (g := other), lacking, OpGraph.paths, OrderedMap.keys]
  simp only [List.mem_map, List.mem_filter]
  constructor
  · rintro ⟨e, ⟨he, ho⟩, rfl⟩
    exact ⟨⟨e, he, rfl⟩, by simpa using ho⟩
  · rintro ⟨⟨e, he, rfl⟩, ho⟩
    exact ⟨e, ⟨he, by simpa using ho⟩, rfl⟩

theorem mem_missing_iff {discovered executed : OpGraph} {p : String} :
    p ∈ (between discovered executed).missing ↔ p ∈ discovered.paths ∧ p ∉ executed.paths := mem_lacking_iff

theorem mem_unexpected_iff {discovered executed : OpGraph} {p : String} :
    p ∈ (between discovered executed).unexpected ↔ p ∈ executed.paths ∧ p ∉ discovered.paths := mem_lacking_iff

end StructureDiff

end RunLedger
