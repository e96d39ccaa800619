/-!
Strongly connected components in two passes. The first is a depth-first search along the edges that
records the order in which nodes are left; the second takes the nodes from the last left to the first
and gathers, against the edges, all that is not yet in a component.

* `componentsBy` takes the lists of neighbours in whatever order they are visited;
* `components` visits them from the newest edge to the oldest.
-/

namespace ArchAtlas.Graph

/-- Targets of the edges at a node, newest first. -/
def outgoing (edges : List (Nat × Nat)) (v : Nat) : List Nat :=
  edges.reverse.filterMap fun e => if e.1 = v then some e.2 else none

/-- Sources of the edges at a node, newest first. -/
def incoming (edges : List (Nat × Nat)) (v : Nat) : List Nat :=
  edges.reverse.filterMap fun e => if e.2 = v then some e.1 else none

/-- The first pass: the nodes seen, and those left, the last first. -/
structure Departures where
  seen : List Nat
  left : List Nat
  deriving DecidableEq, Repr

/-- Turns of the first pass until the stack is empty. A node on the stack comes with the neighbours
still to look at. -/
def depart (out : Nat → List Nat) :
    (fuel : Nat) → (stack : List (Nat × List Nat)) → Departures → Departures
  | 0, _, d => d
  | _, [], d => d
  | fuel + 1, (v, []) :: stack, d => depart out fuel stack { d with left := v :: d.left }
  | fuel + 1, (v, w :: rest) :: stack, d =>
    if w ∈ d.seen then depart out fuel ((v, rest) :: stack) d
    else depart out fuel ((w, out w) :: (v, rest) :: stack) { d with seen := w :: d.seen }

/-- The first pass from one root. -/
def departFrom (out : Nat → List Nat) (fuel : Nat) (d : Departures) (root : Nat) : Departures :=
  if root ∈ d.seen then d
  else depart out fuel [(root, out root)] { d with seen := root :: d.seen }

/-- The nodes below `n` in the order in which the first pass leaves them, the last first. -/
def departures (out : Nat → List Nat) (n fuel : Nat) : List Nat :=
  ((List.range n).foldl (departFrom out fuel) ⟨[], []⟩).left

/-- A component being gathered: its nodes and the nodes still to expand, newest first, and all nodes
that are in some component. -/
structure Gathering where
  assigned : List Nat
  members : List Nat
  stack : List Nat
  deriving DecidableEq, Repr

/-- Takes a node into the component unless it is in one already. -/
def Gathering.add (g : Gathering) (v : Nat) : Gathering :=
  if v ∈ g.assigned then g
  else ⟨v :: g.assigned, v :: g.members, v :: g.stack⟩

/-- Turns of the second pass until the stack is empty. -/
def gather (into : Nat → List Nat) : (fuel : Nat) → Gathering → Gathering
  | 0, g => g
  | fuel + 1, g =>
    match g.stack with
    | [] => g
    | v :: stack => gather into fuel ((into v).foldl Gathering.add { g with stack })

/-- The second pass: the nodes in components, and the components, the latest first. -/
structure Partition where
  assigned : List Nat
  components : List (List Nat)
  deriving DecidableEq, Repr

/-- The second pass from one root. -/
def Partition.extend (into : Nat → List Nat) (n : Nat) (p : Partition) (root : Nat) : Partition :=
  if root ∈ p.assigned then p
  else
    let g := gather into n ⟨root :: p.assigned, [root], [root]⟩
    ⟨g.assigned, g.members.reverse :: p.components⟩

/-- The strongly connected components of a graph with nodes below `n` and `m` edges, in the order in
which the second pass finds them, where `out` and `into` list the neighbours of a node along the edges
and against them. -/
def componentsBy (out into : Nat → List Nat) (n m : Nat) : List (List Nat) :=
  ((departures out n (m + n)).foldl (Partition.extend into n) ⟨[], []⟩).components.reverse

/-- The components, with neighbours listed from the newest edge to the oldest. -/
def components (n : Nat) (edges : List (Nat × Nat)) : List (List Nat) :=
  componentsBy (outgoing edges) (incoming edges) n edges.length

/-- The components, if every edge joins two nodes. -/
def components? (n : Nat) (edges : List (Nat × Nat)) : Option (List (List Nat)) :=
  if edges.all fun e => e.1 < n && e.2 < n then some (components n edges) else none

end ArchAtlas.Graph
