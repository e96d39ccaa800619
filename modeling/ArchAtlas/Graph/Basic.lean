import ArchAtlas.Graph.Cycles
import ArchAtlas.Table

/-!
Directed graphs over names. Nodes and successors keep the order in which they were added, so that
everything computed from a graph is determined by how it was built.
-/

namespace ArchAtlas

/-- A directed graph: the names of its nodes, the index of each name, and for each node the indices of
its successors. -/
structure Graph where
  ids : List String
  index : Table String Nat
  adjacency : Graph.Adjacency
  deriving DecidableEq, Repr

namespace Graph

def empty : Graph := ⟨[], .empty, []⟩

def indexOf? (g : Graph) (id : String) : Option Nat :=
  g.index.get? id

/-- Adds a node unless there is one with that name; also its index. -/
def addNode (g : Graph) (id : String) : Graph × Nat :=
  match g.indexOf? id with
  | some i => (g, i)
  | none =>
    (⟨g.ids ++ [id], g.index.insert id g.ids.length, g.adjacency ++ [[]]⟩, g.ids.length)

/-- The graph with the given nodes and no edges; a repeated name keeps its first place. -/
def ofNodes (ids : List String) : Graph :=
  ids.foldl (fun g id => (g.addNode id).1) empty

/-- Adds an edge between two different known nodes that are not joined yet; also whether it did. -/
def addEdge (g : Graph) (source target : String) : Graph × Bool :=
  match g.indexOf? source, g.indexOf? target with
  | some i, some j =>
    if i = j ∨ j ∈ g.adjacency.successors i then (g, false)
    else ({ g with adjacency := g.adjacency.modify i (· ++ [j]) }, true)
  | _, _ => (g, false)

def nodeCount (g : Graph) : Nat := g.ids.length

def edgeCount (g : Graph) : Nat := g.adjacency.entries

/-- The names of a list of nodes. -/
def names (g : Graph) (indices : List Nat) : List String :=
  indices.map fun i => g.ids.getD i ""

/-- The successors of a node by name, if there is such a node. -/
def successors? (g : Graph) (id : String) : Option (List String) :=
  (g.indexOf? id).map fun i => g.names (g.adjacency.successors i)

/-- The cycles along a depth-first search, as names. -/
def namedCycles (g : Graph) : List (List String) :=
  (cycles g.adjacency).map g.names

end Graph

end ArchAtlas
