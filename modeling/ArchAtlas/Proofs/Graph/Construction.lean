import ArchAtlas.Proofs.Graph.Basic

/-!
Graphs as they are built, one operation after the other. Main statement: whatever the operations, the
names, their places and the successors of a graph stay in step, and its cycles can always be named.

* `perform` is one operation with its answer, `construct` a run of operations with all answers;
* `Tallies.next`, `construct_tallies`: what a graph owes to the operations, kept by one and so by a run;
* `WellFormed.addEdge_eq_true_iff`, `WellFormed.addEdge_of_true`: when an edge is added, and where;
* `WellFormed.namedCycles?_eq`: no name is missing when cycles are named;
* `Sound` gathers what holds of a graph after a run from the empty one.
-/

namespace ArchAtlas.Graph

inductive Operation where
  | addNode (id : String)
  | addEdge (source target : String)
  deriving DecidableEq, Repr

def Operation.node? : Operation → Option String
  | .addNode id => some id
  | .addEdge _ _ => none

inductive Answer where
  /-- The place of the node. -/
  | place (i : Nat)
  /-- Whether the edge was added. -/
  | joined (new : Bool)
  deriving DecidableEq, Repr

def perform (g : Graph) : Operation → Graph × Answer
  | .addNode id => ((g.addNode id).1, .place (g.addNode id).2)
  | .addEdge source target => ((g.addEdge source target).1, .joined (g.addEdge source target).2)

/-- Performs operations in order; also their answers. -/
def construct (g : Graph) : List Operation → Graph × List Answer
  | [] => (g, [])
  | op :: ops =>
    let next := g.perform op
    let last := next.1.construct ops
    (last.1, next.2 :: last.2)

section

variable {g : Graph} {adjacency : Adjacency} {i j : Nat} {source target id : String}

theorem construct_append (g : Graph) (ops more : List Operation) :
    g.construct (ops ++ more) =
      (((g.construct ops).1.construct more).1,
        (g.construct ops).2 ++ ((g.construct ops).1.construct more).2) := by
  induction ops generalizing g with
  | nil => rfl
  | cons op ops ih =>
    rw [List.cons_append, construct, construct, ih]
    rfl

/-! ## Nodes -/

/-- A known node is left where it is. -/
theorem addNode_of_known (known : g.indexOf? id = some i) : g.addNode id = (g, i) := by
  simp only [addNode, known]

/-- No operation moves a name. -/
theorem ids_perform (g : Graph) (op : Operation) : g.ids <+: (g.perform op).1.ids := by
  cases op with
  | addNode id =>
    change g.ids <+: (g.addNode id).1.ids
    unfold addNode
    split
    · exact List.prefix_rfl
    · exact List.prefix_append _ _
  | addEdge source target =>
    change g.ids <+: (g.addEdge source target).1.ids
    rw [addEdge_ids]

theorem ids_construct (g : Graph) (ops : List Operation) : g.ids <+: (g.construct ops).1.ids := by
  induction ops generalizing g with
  | nil => exact List.prefix_rfl
  | cons op ops ih => exact (ids_perform g op).trans (ih (g.perform op).1)

/-! ## Edges -/

/-- An edge is added exactly when it joins two different nodes that are not joined yet. -/
theorem WellFormed.addEdge_eq_true_iff (h : g.WellFormed) :
    (g.addEdge source target).2 = true ↔
      source ∈ g.ids ∧ target ∈ g.ids ∧ source ≠ target ∧ ¬ g.HasEdge source target := by
  rcases h.addEdge_cases source target with ⟨same, old⟩ | ⟨i, j, hi, hj, apart, fresh, added⟩
  · rw [same]
    refine ⟨nofun, ?_⟩
    rintro ⟨known, known', different, unjoined⟩
    rcases old with out | out | same | edge
    · exact absurd known out
    · exact absurd known' out
    · exact absurd same different
    · exact absurd edge unjoined
  · rw [added]
    refine ⟨fun _ => ⟨List.mem_of_getElem? hi, List.mem_of_getElem? hj, ?_, ?_⟩, fun _ => rfl⟩
    · rintro rfl
      exact apart (h.place_unique hi hj)
    · rintro ⟨k, l, hk, hl, edge⟩
      rw [h.place_unique hk hi, h.place_unique hl hj] at edge
      exact fresh edge

theorem WellFormed.addEdge_of_false (h : g.WellFormed)
    (refused : (g.addEdge source target).2 = false) : (g.addEdge source target).1 = g := by
  rcases h.addEdge_cases source target with ⟨same, -⟩ | ⟨i, j, -, -, -, -, added⟩
  · rw [same]
  · rw [added] at refused
    cases refused

/-- An edge that is added stands behind the other successors of its source, and no other node gets a
successor. -/
theorem WellFormed.addEdge_of_true (h : g.WellFormed) (new : (g.addEdge source target).2 = true)
    (atSource : g.indexOf? source = some i) (atTarget : g.indexOf? target = some j) (k : Nat) :
    (g.addEdge source target).1.adjacency.successors k =
      if k = i then g.adjacency.successors k ++ [j] else g.adjacency.successors k := by
  rcases h.addEdge_cases source target with ⟨same, -⟩ | ⟨i', j', hi, hj, -, -, added⟩
  · rw [same] at new
    cases new
  · obtain rfl : i' = i := h.place_unique hi (h.indexOf?_eq_some_iff.mp atSource)
    obtain rfl : j' = j := h.place_unique hj (h.indexOf?_eq_some_iff.mp atTarget)
    have inside : i' < g.adjacency.length := h.size ▸ (List.getElem?_eq_some_iff.mp hi).1
    rw [added]
    exact successors_modify inside k

theorem entries_modify (bound : i < adjacency.length) :
    Adjacency.entries (adjacency.modify i (· ++ [j])) = adjacency.entries + 1 := by
  induction adjacency generalizing i with
  | nil => exact absurd bound (Nat.not_lt_zero i)
  | cons successors rest ih =>
    cases i with
    | zero =>
      simp only [Adjacency.entries, List.modify_zero_cons, List.flatten_cons, List.length_append,
        List.length_singleton]
      omega
    | succ i =>
      have later := ih (Nat.lt_of_succ_lt_succ bound)
      simp only [Adjacency.entries] at later
      simp only [Adjacency.entries, List.modify_succ_cons, List.flatten_cons, List.length_append,
        later]
      omega

theorem addNode_edgeCount (g : Graph) (id : String) : (g.addNode id).1.edgeCount = g.edgeCount := by
  unfold addNode
  split
  · rfl
  · simp [edgeCount, Adjacency.entries]

theorem WellFormed.addEdge_edgeCount (h : g.WellFormed) :
    (g.addEdge source target).1.edgeCount =
      g.edgeCount + if (g.addEdge source target).2 then 1 else 0 := by
  rcases h.addEdge_cases source target with ⟨same, -⟩ | ⟨i, j, hi, -, -, -, added⟩
  · rw [same]
    rfl
  · have inside : i < g.adjacency.length := h.size ▸ (List.getElem?_eq_some_iff.mp hi).1
    rw [added]
    exact entries_modify inside

/-! ## A run of operations -/

/-- What a graph owes to the operations that built it: it is well formed, its names are those put in, in
the order in which they first were, and it has an edge for each answer that one was added. -/
structure Tallies (ops : List Operation) (g : Graph) (answers : List Answer) : Prop where
  formed : g.WellFormed
  ids : g.ids = (ops.filterMap Operation.node?).eraseDups
  edges : g.edgeCount = answers.count (.joined true)

theorem Tallies.empty : Tallies [] empty [] where
  formed := .empty
  ids := rfl
  edges := rfl

/-- One more operation keeps the tally. -/
theorem Tallies.next {ops : List Operation} {answers : List Answer} (h : Tallies ops g answers)
    (op : Operation) :
    Tallies (ops ++ [op]) (g.perform op).1 (answers ++ [(g.perform op).2]) := by
  cases op with
  | addNode id =>
    refine ⟨h.formed.addNode id, ?_, ?_⟩
    · change (g.addNode id).1.ids = _
      rw [h.formed.addNode_ids, List.filterMap_append, h.ids]
      simp only [List.filterMap_cons, Operation.node?, List.filterMap_nil,
        eraseDups_append_singleton, List.mem_eraseDups]
    · change (g.addNode id).1.edgeCount = _
      rw [addNode_edgeCount, h.edges, List.count_append]
      rfl
  | addEdge source target =>
    refine ⟨h.formed.addEdge source target, ?_, ?_⟩
    · change (g.addEdge source target).1.ids = _
      rw [addEdge_ids, h.ids, List.filterMap_append]
      exact congrArg List.eraseDups (List.append_nil _).symm
    · change (g.addEdge source target).1.edgeCount = _
      rw [h.formed.addEdge_edgeCount, h.edges, List.count_append]
      change _ = _ + [Answer.joined (g.addEdge source target).2].count (.joined true)
      cases (g.addEdge source target).2 <;> rfl

theorem construct_tallies (ops : List Operation) :
    Tallies ops (Graph.empty.construct ops).1 (Graph.empty.construct ops).2 := by
  induction ops using List.reverseRecOn with
  | nil => exact .empty
  | append_singleton ops op ih =>
    rw [construct_append]
    exact ih.next op

/-! ## Cycles -/

/-- The cycles by name, if every successor is a node and every node of a cycle has a name. -/
def namedCycles? (g : Graph) : Option (List (List String)) :=
  (cycles? g.adjacency).bind fun found => found.mapM fun c => c.mapM fun i => g.ids[i]?

theorem mapM_of_forall {α β : Type} {f : α → Option β} {value : α → β} {items : List α}
    (each : ∀ x ∈ items, f x = some (value x)) : items.mapM f = some (items.map value) := by
  induction items with
  | nil => rfl
  | cons x rest ih =>
    obtain ⟨here, later⟩ := List.forall_mem_cons.mp each
    rw [List.mapM_cons, here, ih later]
    rfl

/-- Every cycle can be named. -/
theorem WellFormed.namedCycles?_eq (h : g.WellFormed) : g.namedCycles? = some g.namedCycles := by
  have named : ∀ c ∈ cycles g.adjacency, (c.mapM fun i => g.ids[i]?) = some (g.names c) := by
    intro c mem
    have cyclic := (cycles_simple h.range).1 c mem
    apply mapM_of_forall
    intro i hi
    obtain ⟨j, edge, -⟩ := Relation.TransGen.head'_iff.mp (cyclic.transGen hi hi)
    exact getElem?_name (h.size ▸ lt_of_leads edge)
  rw [namedCycles?, cycles?, if_pos (inRange_iff.mpr h.range), Option.bind_some]
  exact mapM_of_forall named

/-- The search for cycles comes to its end at every node. -/
theorem WellFormed.search_done (h : g.WellFormed) :
    ((List.range g.adjacency.length).foldl (Search.fromRoot g.adjacency) .initial).work = [] :=
  (roots_done h.range (fun _ => List.mem_range.mp) (Searching.initial g.adjacency) rfl).2.2

end

/-! ## The whole -/

/-- What holds of a graph that a run of operations built from the empty one, given their answers. -/
structure Sound (ops : List Operation) (g : Graph) (answers : List Answer) : Prop where
  /-- Names are distinct, the index agrees with their places, and successors are nodes, neither repeated
  nor the node itself. -/
  formed : g.WellFormed
  /-- Names stand where they were first put in, also after further operations. -/
  first : g.ids = (ops.filterMap Operation.node?).eraseDups
  stays : ∀ more, g.ids <+: (g.construct more).1.ids
  /-- A name is found at its place, and only there. -/
  places : ∀ id i, g.indexOf? id = some i ↔ g.ids[i]? = some id
  known : ∀ id i, g.indexOf? id = some i → g.addNode id = (g, i)
  /-- An edge is added where it joins two different nodes for the first time, and nothing else
  changes. -/
  joins : ∀ source target, (g.addEdge source target).2 = true ↔
    source ∈ g.ids ∧ target ∈ g.ids ∧ source ≠ target ∧ ¬ g.HasEdge source target
  refuses : ∀ source target, (g.addEdge source target).2 = false →
    (g.addEdge source target).1 = g
  appends : ∀ source target i j, (g.addEdge source target).2 = true →
    g.indexOf? source = some i → g.indexOf? target = some j →
    (g.addEdge source target).1.ids = g.ids ∧
    ∀ k, (g.addEdge source target).1.adjacency.successors k =
      if k = i then g.adjacency.successors k ++ [j] else g.adjacency.successors k
  edges : g.edgeCount = answers.count (.joined true)
  /-- The search for cycles comes to its end, and what it finds can be named. -/
  done : ((List.range g.adjacency.length).foldl (Search.fromRoot g.adjacency) .initial).work = []
  named : g.namedCycles? = some g.namedCycles
  cyclic : ∀ c ∈ g.namedCycles, 2 ≤ c.length
  apart : g.namedCycles.Nodup

/-- Whatever operations build a graph, in whatever order and however often repeated, its names, places
and successors agree, each edge was added by one operation that said so, and its cycles are named, have
two nodes or more, and differ. -/
theorem construct_sound (ops : List Operation) :
    Sound ops (Graph.empty.construct ops).1 (Graph.empty.construct ops).2 := by
  obtain ⟨formed, ids, edges⟩ := construct_tallies ops
  obtain ⟨cyclic, apart⟩ := formed.namedCycles_simple
  exact {
    formed
    first := ids
    stays := ids_construct _
    places := fun _ _ => formed.indexOf?_eq_some_iff
    known := fun _ _ => addNode_of_known
    joins := fun _ _ => formed.addEdge_eq_true_iff
    refuses := fun _ _ => formed.addEdge_of_false
    appends := fun source target _ _ new atSource atTarget =>
      ⟨addEdge_ids _ source target, formed.addEdge_of_true new atSource atTarget⟩
    edges
    done := formed.search_done
    named := formed.namedCycles?_eq
    cyclic := fun c mem => (cyclic c mem).two_le_length formed.not_hasEdge_self
    apart }

/-- A repeated node, a repeated edge, a loop and an unknown end leave no trace. -/
example :
    let built := Graph.empty.construct
      [.addNode "a", .addNode "b", .addNode "a", .addEdge "a" "b", .addEdge "a" "z", .addNode "c",
        .addEdge "b" "c", .addEdge "c" "a", .addEdge "c" "c", .addEdge "a" "b", .addEdge "b" "a"]
    built.1.ids = ["a", "b", "c"] ∧ built.1.edgeCount = 4 ∧
      built.1.namedCycles? = some [["a", "b", "c"], ["a", "b"]] := by
  decide +kernel

end ArchAtlas.Graph
