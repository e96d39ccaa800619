/-!
Cycles along a depth-first search. Roots are taken in order and successors as listed. When a successor
is still on the path from the root, the part of the path from it on is reported; so only cycles along
the search tree are found, not every cycle of the graph.

* `Search` is the state of the search, `Search.step` one turn of its loop;
* `cycles` runs it over an adjacency list, with fuel for one turn per entry and one per node.
-/

namespace ArchAtlas.Graph

/-- For each node the list of its successors. -/
abbrev Adjacency := List (List Nat)

/-- Whether every successor is a node. -/
def Adjacency.inRange (adjacency : Adjacency) : Bool :=
  adjacency.all fun successors => successors.all fun v => v < adjacency.length

/-- The successors of a node. -/
def Adjacency.successors (adjacency : Adjacency) (v : Nat) : List Nat :=
  adjacency.getD v []

/-- The number of entries over all nodes. -/
def Adjacency.entries (adjacency : Adjacency) : Nat :=
  adjacency.flatten.length

/-- The state of the search. The last node of the path and of the work stack comes first; a node on the
work stack comes with the index of the successor to look at next. -/
structure Search where
  visited : List Nat
  /-- The nodes on the path, with their places counted from the root. -/
  position : List (Nat × Nat)
  path : List Nat
  work : List (Nat × Nat)
  /-- The cycles reported so far, the latest first. -/
  found : List (List Nat)
  deriving DecidableEq, Repr

namespace Search

def initial : Search := ⟨[], [], [], [], []⟩

/-- The place of a node on the path. -/
def place? (s : Search) (v : Nat) : Option Nat :=
  s.position.lookup v

/-- Moves to a node for the first time. -/
def enter (s : Search) (v : Nat) : Search :=
  { s with
    visited := v :: s.visited
    position := (v, s.path.length) :: s.position
    path := v :: s.path
    work := (v, 0) :: s.work }

/-- The path from a place on, in order from the root. -/
def pathFrom (s : Search) (start : Nat) : List Nat :=
  s.path.reverse.drop start

/-- One turn: look at the next successor of the last node, or go back when there is none. -/
def step (adjacency : Adjacency) (s : Search) : Search :=
  match s.work with
  | [] => s
  | (v, next) :: below =>
    match (adjacency.successors v)[next]? with
    | some w =>
      let s := { s with work := (v, next + 1) :: below }
      if w ∈ s.visited then
        match s.place? w with
        | some start => { s with found := s.pathFrom start :: s.found }
        | none => s
      else s.enter w
    | none =>
      { s with
        work := below
        path := s.path.tail
        position := s.position.filter fun p => p.1 ≠ v }

/-- Turns until the work stack is empty, at most `fuel` of them. -/
def run (adjacency : Adjacency) : (fuel : Nat) → Search → Search
  | 0, s => s
  | fuel + 1, s => if s.work.isEmpty then s else run adjacency fuel (s.step adjacency)

/-- Searches from a root that has not been visited yet. -/
def fromRoot (adjacency : Adjacency) (s : Search) (root : Nat) : Search :=
  if root ∈ s.visited then s
  else run adjacency (adjacency.entries + adjacency.length) (s.enter root)

end Search

/-- The cycles found along a depth-first search from every node in turn. -/
def cycles (adjacency : Adjacency) : List (List Nat) :=
  ((List.range adjacency.length).foldl (Search.fromRoot adjacency) .initial).found.reverse

/-- The cycles of an adjacency list, if all its entries are nodes. -/
def cycles? (adjacency : Adjacency) : Option (List (List Nat)) :=
  if adjacency.inRange then some (cycles adjacency) else none

end ArchAtlas.Graph
