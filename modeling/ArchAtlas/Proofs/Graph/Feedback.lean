import ArchAtlas.Proofs.Graph.Basic

namespace ArchAtlas.Graph

/-- The edge from the last node of a cycle to its first. -/
def closing? (c : List Nat) : Option (Nat × Nat) :=
  match c.getLast?, c.head? with
  | some u, some w => some (u, w)
  | _, _ => none

def closingEdges (found : List (List Nat)) : List (Nat × Nat) :=
  found.filterMap closing?

/-- The graph without some edges, however often they are listed. -/
def Adjacency.without (adjacency : Adjacency) (edges : List (Nat × Nat)) : Adjacency :=
  adjacency.mapIdx fun u successors => successors.filter fun w => (u, w) ∉ edges

def Adjacency.Acyclic (adjacency : Adjacency) : Prop :=
  ∀ v, ¬ Relation.TransGen (Leads adjacency.successors) v v

section

variable {adjacency : Adjacency} {left later earlier : List Nat} {found : List (List Nat)}
variable {edges : List (Nat × Nat)} {u w : Nat}

theorem mem_closingEdges : (u, w) ∈ closingEdges found ↔ Reported found u w := by
  simp only [closingEdges, List.mem_filterMap, Reported]
  refine exists_congr fun c => and_congr_right fun _ => ?_
  unfold closing?
  split
  · rename_i last first
    rw [last, first, Option.some.injEq, Prod.mk.injEq, Option.some.injEq, Option.some.injEq]
    exact and_comm
  · rename_i missing
    constructor
    · intro closes
      cases closes
    · rintro ⟨first, last⟩
      exact absurd first (missing u w last)

theorem leads_without : Leads (adjacency.without edges).successors u w ↔
    Leads adjacency.successors u w ∧ (u, w) ∉ edges := by
  simp only [Leads, Adjacency.successors, Adjacency.without, List.getD_eq_getElem?_getD,
    List.getElem?_mapIdx]
  cases adjacency[u]? with
  | none => simp
  | some successors => simp

/-- An edge that closes no cycle found goes to a node that was left earlier. -/
theorem Answered.step (answered : Answered adjacency left found)
    (split : left = later ++ u :: earlier)
    (edge : Leads (adjacency.without (closingEdges found)).successors u w) : w ∈ earlier := by
  obtain ⟨edge, kept⟩ := leads_without.mp edge
  have answer := answered later u earlier split w edge
  exact answer.resolve_right fun reported => kept (mem_closingEdges.mpr reported)

theorem Answered.path (answered : Answered adjacency left found)
    (split : left = later ++ u :: earlier)
    (path : Relation.TransGen (Leads (adjacency.without (closingEdges found)).successors) u w) :
    w ∈ earlier := by
  induction path with
  | single edge => exact answered.step split edge
  | @tail v w _ edge ih =>
    obtain ⟨before, after, cut⟩ := List.append_of_mem ih
    have split' : left = (later ++ u :: before) ++ v :: after := by
      rw [split, cut, List.append_assoc, List.cons_append]
    have last : w ∈ after := answered.step split' edge
    rw [cut]
    exact List.mem_append_right _ (List.mem_cons_of_mem _ last)

/-- A node cannot have been left earlier than the first time it was left. -/
theorem Answered.acyclic (answered : Answered adjacency left found)
    (all : ∀ v, v < adjacency.length → v ∈ left) :
    (adjacency.without (closingEdges found)).Acyclic := by
  intro v round
  obtain ⟨w, edge, -⟩ := Relation.TransGen.head'_iff.mp round
  have mem : v ∈ left := all v (lt_of_leads (leads_without.mp edge).1)
  obtain ⟨later, u, earlier, split, rfl, fresh⟩ := exists_last (p := (· = v)) ⟨v, mem, rfl⟩
  have again : u ∈ earlier := answered.path split round
  exact fresh u again rfl

theorem without_nil_acyclic (h : (adjacency.without []).Acyclic) : adjacency.Acyclic := by
  intro v round
  apply h v
  apply Relation.TransGen.mono _ _ _ round
  intro x y edge
  exact leads_without.mpr ⟨edge, List.not_mem_nil⟩

end

/-- The search for cycles comes to an end, and once the edge from the last node to the first of each
cycle that it finds is taken out, no cycle is left. Each of these edges lies on a cycle, and none is found
just where there is no cycle. -/
theorem cycles_feedback {adjacency : Adjacency} (range : adjacency.inRange = true) :
    ∃ found, cycles? adjacency = some found ∧
      (adjacency.without (closingEdges found)).Acyclic ∧
      (∀ e ∈ closingEdges found, Leads adjacency.successors e.1 e.2 ∧
        Relation.ReflTransGen (Leads adjacency.successors) e.2 e.1) ∧
      (found = [] ↔ adjacency.Acyclic) := by
  obtain ⟨left, all, answered, cyclic, -⟩ := cycles_answered (inRange_iff.mp range)
  have enough := answered.acyclic all
  refine ⟨cycles adjacency, by rw [cycles?, if_pos range], enough, ?_, ?_, ?_⟩
  · rintro ⟨u, w⟩ closes
    obtain ⟨c, mem, first, last⟩ := mem_closingEdges.mp closes
    have cycle := cyclic c mem
    have edge := cycle.closes u w last first
    exact ⟨edge, (cycle.mutual (List.mem_of_head? first) (List.mem_of_getLast? last)).1⟩
  · intro none
    rw [none] at enough
    exact without_nil_acyclic enough
  · intro acyclic
    refine List.eq_nil_iff_forall_not_mem.mpr fun c mem => ?_
    obtain ⟨x, here⟩ := List.exists_mem_of_ne_nil c (cyclic c mem).nonempty
    exact acyclic x ((cyclic c mem).transGen here here)

/-- Cycles that share nodes, loops and repeated edges. -/
theorem cycles_feedback_sharedNode :
    let adjacency : Adjacency := [[1], [0, 2, 2], [1, 2, 3], [3, 1, 3]]
    adjacency.inRange = true ∧
    cycles? adjacency = some [[0, 1], [1, 2], [2], [3], [1, 2, 3], [3]] ∧
    adjacency.without (closingEdges [[0, 1], [1, 2], [2], [3], [1, 2, 3], [3]]) =
      [[1], [2, 2], [3], []] ∧
    Adjacency.Acyclic [[1], [2, 2], [3], []] := by
  intro adjacency
  have range : adjacency.inRange = true := by decide
  have value : cycles? adjacency = some [[0, 1], [1, 2], [2], [3], [1, 2, 3], [3]] := by decide
  have rest : adjacency.without (closingEdges [[0, 1], [1, 2], [2], [3], [1, 2, 3], [3]]) =
      [[1], [2, 2], [3], []] := by decide
  obtain ⟨found, same, acyclic, -⟩ := cycles_feedback range
  obtain rfl := Option.some.inj (same.symm.trans value)
  exact ⟨range, value, rest, rest ▸ acyclic⟩

end ArchAtlas.Graph
