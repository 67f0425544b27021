import RunLedger.Identifier.Basic
import RunLedger.Json.Printer
import RunLedger.OrderedMap

/-!
# Graphs of operations

The operations that a pass came across, by their paths in the order of discovery. A node knows its parent's path and its
children. An operation whose parent is not in the graph when it is found is a root.

* `paths_insert`: a path is added at the end, if it is new.
* `insert_of_contains`: a path that is known changes nothing.
-/

namespace RunLedger

/-- An operation that was found. -/
structure OpNode where
  id : OperationId
  /-- The path of the operation around it. -/
  parent : Option String
  /-- The paths of the operations found in it, in the order of discovery. -/
  children : List String
  deriving DecidableEq

/-- Nodes by their paths. -/
structure OpGraph where
  nodes : OrderedMap String OpNode
  roots : List String

namespace OpGraph

/-- No operations. -/
def empty : OpGraph := ⟨.empty, []⟩

instance : Inhabited OpGraph := ⟨empty⟩

/-- The node at a path. -/
def get? (g : OpGraph) (path : String) : Option OpNode := g.nodes.get? path

/-- Whether a path was found. -/
def contains (g : OpGraph) (path : String) : Bool := g.nodes.contains path

/-- The paths in the order of discovery. -/
def paths (g : OpGraph) : List String := g.nodes.keys

/-- The children of a path, none if it was not found. -/
def children (g : OpGraph) (path : String) : List String := (g.get? path).elim [] OpNode.children

/-- A list with an element at its end, unless it is there already. -/
def addTo (paths : List String) (path : String) : List String := if path ∈ paths then paths else paths ++ [path]

/-- Adds a node at a path that is new, below its parent if that is there. -/
def attach (g : OpGraph) (parent : Option String) (path : String) (id : OperationId) : OpGraph :=
  let node : OpNode := ⟨id, parent, []⟩
  match parent.bind fun p => (g.get? p).map fun n => (p, n) with
  | some (p, n) => ⟨(g.nodes.set p { n with children := addTo n.children path }).set path node, g.roots⟩
  | none => ⟨g.nodes.set path node, addTo g.roots path⟩

/-- Records an operation, unless its path is known. -/
def insert (g : OpGraph) (parent : Option String) (path : String) (id : OperationId) : OpGraph :=
  if g.contains path then g else g.attach parent path id

/-- The graph after an operation was recorded, and whether its path was new. -/
def record (g : OpGraph) (parent : Option String) (path : String) (id : OperationId) : OpGraph × Bool :=
  (g.insert parent path id, !g.contains path)

/-- Whether lists have the same elements. -/
def sameElements (a b : List String) : Bool := a.all b.contains && b.all a.contains

/-- Whether graphs have the same nodes with the same children and the same roots, in whatever order. -/
def same (a b : OpGraph) : Bool :=
  sameElements a.roots b.roots && sameElements a.paths b.paths &&
    a.nodes.entries.all fun (path, n) =>
      match b.get? path with
      | some n' => n.id = n'.id && n.parent = n'.parent && sameElements n.children n'.children
      | none => false

/-- A node as a record. -/
def nodeJson (n : OpNode) : Json :=
  .record [("id", .text n.id.name), ("parent", n.parent.elim .null .text), ("children", .array (n.children.map .text))]

/-- The graph as a record. -/
def toJson (g : OpGraph) : Json :=
  .record [("nodes", .record (g.nodes.entries.map fun (path, n) => (path, nodeJson n))),
    ("roots", .array (g.roots.map .text))]

theorem insert_of_contains {g : OpGraph} {path : String} (h : g.contains path) (parent : Option String)
    (id : OperationId) : g.insert parent path id = g := by
  simp [insert, h]

theorem contains_iff {g : OpGraph} {path : String} : g.contains path ↔ path ∈ g.paths := by
  have := OrderedMap.get?_eq_none_iff (m := g.nodes) (k := path)
  rw [contains, OrderedMap.contains, paths]
  cases h : g.nodes.get? path <;> simp_all

/-- A path is added at the end, if it is new. -/
theorem paths_insert (g : OpGraph) (parent : Option String) (path : String) (id : OperationId) :
    (g.insert parent path id).paths = if path ∈ g.paths then g.paths else g.paths ++ [path] := by
  by_cases h : path ∈ g.paths
  · rw [insert_of_contains (contains_iff.mpr h), if_pos h]
  · have hc : g.contains path = false := by simpa using fun hc => h (contains_iff.mp hc)
    rw [insert, hc, if_neg h]
    simp only [Bool.false_eq_true, if_false, attach]
    split
    · rename_i p n hp
      have hmem : p ∈ g.nodes.keys := by
        cases parent with
        | none => cases hp
        | some q =>
          simp only [Option.bind_some, Option.map_eq_some_iff] at hp
          obtain ⟨_, hq, he⟩ := hp
          cases he
          have hc : g.nodes.contains p = true := by
            rw [OrderedMap.contains, show g.nodes.get? p = some n from hq]
            rfl
          exact contains_iff.mp hc
      have hpath : path ∉ g.nodes.keys := h
      rw [paths, OrderedMap.keys_set, OrderedMap.keys_set, if_pos hmem, if_neg hpath]
      rfl
    · rw [paths, OrderedMap.keys_set, if_neg (show path ∉ g.nodes.keys from h)]
      rfl

end OpGraph

end RunLedger
