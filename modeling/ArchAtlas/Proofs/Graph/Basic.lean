import ArchAtlas.Graph.Basic
import ArchAtlas.Proofs.Distinct
import ArchAtlas.Proofs.Graph.Cycles
import ArchAtlas.Proofs.Table

namespace ArchAtlas.Graph

/-- No name occurs twice, the index gives each name its place and knows no other, every successor is a
node, and no edge is a loop or occurs twice. -/
structure WellFormed (g : Graph) : Prop where
  ids : g.ids.Nodup
  index : g.index.Places g.ids
  size : g.adjacency.length = g.ids.length
  range : ∀ i, ∀ j ∈ g.adjacency.successors i, j < g.adjacency.length
  simple : ∀ i, (g.adjacency.successors i).Nodup
  loopless : ∀ i, i ∉ g.adjacency.successors i

def HasEdge (g : Graph) (x y : String) : Prop :=
  ∃ i j, g.ids[i]? = some x ∧ g.ids[j]? = some y ∧ Leads g.adjacency.successors i j

section

variable {g : Graph} {adjacency : Adjacency} {i j : Nat} {x y source target id : String}

theorem WellFormed.indexOf?_eq_some_iff (h : g.WellFormed) :
    g.indexOf? x = some i ↔ g.ids[i]? = some x :=
  h.index x i

theorem WellFormed.indexOf?_eq_none_iff (h : g.WellFormed) : g.indexOf? x = none ↔ x ∉ g.ids :=
  h.index.get?_eq_none_iff

/-- A name belongs to one node. -/
theorem WellFormed.place_unique (h : g.WellFormed) (hi : g.ids[i]? = some x)
    (hj : g.ids[j]? = some x) : i = j :=
  Option.some.inj ((h.indexOf?_eq_some_iff.mpr hi).symm.trans (h.indexOf?_eq_some_iff.mpr hj))

theorem WellFormed.empty : Graph.empty.WellFormed where
  ids := List.nodup_nil
  index := .empty
  size := rfl
  range := by simp [Graph.empty, Adjacency.successors]
  simple := by simp [Graph.empty, Adjacency.successors]
  loopless := by simp [Graph.empty, Adjacency.successors]

/-! ## Building a graph -/

theorem successors_append_nil (adjacency : Adjacency) (k : Nat) :
    (adjacency ++ [[]]).successors k = adjacency.successors k := by
  by_cases bound : k < adjacency.length
  · rw [Adjacency.successors, List.getD_append _ _ _ _ bound, Adjacency.successors]
  · have out := Nat.le_of_not_lt bound
    rw [Adjacency.successors, List.getD_append_right _ _ _ _ out, Adjacency.successors,
      List.getD_eq_default _ _ out]
    cases k - adjacency.length <;> simp

theorem successors_modify (bound : i < adjacency.length) (k : Nat) :
    Adjacency.successors (adjacency.modify i (· ++ [j])) k =
      if k = i then adjacency.successors k ++ [j] else adjacency.successors k := by
  simp only [Adjacency.successors, List.getD_eq_getElem?_getD, List.getElem?_modify]
  by_cases same : k = i
  · subst same
    simp [List.getElem?_eq_getElem bound]
  · simp [same, Ne.symm same]

theorem WellFormed.addNode (h : g.WellFormed) (id : String) : (g.addNode id).1.WellFormed := by
  unfold Graph.addNode
  split
  · exact h
  · rename_i new
    have places := h.index.push (h.indexOf?_eq_none_iff.mp new)
    refine ⟨places.nodup, places, ?_, ?_, ?_, ?_⟩
    · simp [h.size]
    · intro i j mem
      rw [successors_append_nil] at mem
      have := h.range i j mem
      rw [List.length_append]
      omega
    · intro i
      rw [successors_append_nil]
      exact h.simple i
    · intro i
      rw [successors_append_nil]
      exact h.loopless i

theorem WellFormed.addNode_ids (h : g.WellFormed) (id : String) :
    (g.addNode id).1.ids = if id ∈ g.ids then g.ids else g.ids ++ [id] := by
  unfold Graph.addNode
  split
  · rename_i i found
    rw [if_pos (List.mem_of_getElem? (h.indexOf?_eq_some_iff.mp found))]
  · rename_i new
    rw [if_neg (h.indexOf?_eq_none_iff.mp new)]

theorem addNode_successors (g : Graph) (id : String) (i : Nat) :
    (g.addNode id).1.adjacency.successors i = g.adjacency.successors i := by
  unfold addNode
  split
  · rfl
  · exact successors_append_nil _ _

/-- A graph of nodes: its names are those given, and it has no edges. -/
theorem ofNodes_wellFormed (ids : List String) :
    (ofNodes ids).WellFormed ∧ (ofNodes ids).ids = ids.eraseDups ∧
    ∀ i, (ofNodes ids).adjacency.successors i = [] := by
  induction ids using List.reverseRecOn with
  | nil => exact ⟨.empty, rfl, fun i => by simp [ofNodes, Graph.empty, Adjacency.successors]⟩
  | append_singleton ids id ih =>
    obtain ⟨formed, names, bare⟩ := ih
    have last : ofNodes (ids ++ [id]) = ((ofNodes ids).addNode id).1 := by
      simp [ofNodes]
    rw [last, formed.addNode_ids, names, eraseDups_append_singleton]
    refine ⟨formed.addNode id, by simp only [List.mem_eraseDups], fun i => ?_⟩
    rw [addNode_successors, bare i]

/-- Adding an edge either finds nothing to add and says so, or puts the target behind the successors of
the source. -/
theorem WellFormed.addEdge_cases (h : g.WellFormed) (source target : String) :
    (g.addEdge source target = (g, false) ∧
      (source ∉ g.ids ∨ target ∉ g.ids ∨ source = target ∨ g.HasEdge source target)) ∨
    ∃ i j : Nat, g.ids[i]? = some source ∧ g.ids[j]? = some target ∧ i ≠ j ∧
      j ∉ g.adjacency.successors i ∧
      g.addEdge source target = ({ g with adjacency := g.adjacency.modify i (· ++ [j]) }, true) := by
  unfold Graph.addEdge
  cases hi : g.indexOf? source with
  | none => exact Or.inl ⟨rfl, Or.inl (h.indexOf?_eq_none_iff.mp hi)⟩
  | some i =>
    cases hj : g.indexOf? target with
    | none => exact Or.inl ⟨rfl, Or.inr (Or.inl (h.indexOf?_eq_none_iff.mp hj))⟩
    | some j =>
      have atSource := h.indexOf?_eq_some_iff.mp hi
      have atTarget := h.indexOf?_eq_some_iff.mp hj
      dsimp only
      split
      · rename_i old
        refine Or.inl ⟨rfl, Or.inr (Or.inr ?_)⟩
        rcases old with rfl | edge
        · exact Or.inl (Option.some.inj (atSource.symm.trans atTarget))
        · exact Or.inr ⟨i, j, atSource, atTarget, edge⟩
      · rename_i new
        obtain ⟨apart, fresh⟩ := not_or.mp new
        exact Or.inr ⟨i, j, atSource, atTarget, apart, fresh, rfl⟩

theorem addEdge_ids (g : Graph) (source target : String) :
    (g.addEdge source target).1.ids = g.ids := by
  unfold addEdge
  split
  · split <;> rfl
  · rfl

theorem WellFormed.addEdge (h : g.WellFormed) (source target : String) :
    (g.addEdge source target).1.WellFormed := by
  rcases h.addEdge_cases source target with ⟨same, -⟩ | ⟨i, j, hi, hj, apart, fresh, added⟩
  · rwa [same]
  · have inside : i < g.adjacency.length := h.size ▸ (List.getElem?_eq_some_iff.mp hi).1
    have inside' : j < g.adjacency.length := h.size ▸ (List.getElem?_eq_some_iff.mp hj).1
    rw [added]
    refine ⟨h.ids, h.index, ?_, ?_, ?_, ?_⟩
    · rw [List.length_modify, h.size]
    · intro k x mem
      rw [successors_modify inside] at mem
      rw [List.length_modify]
      split at mem
      · rcases List.mem_append.mp mem with mem | mem
        · exact h.range k x mem
        · obtain rfl : x = j := by simpa using mem
          exact inside'
      · exact h.range k x mem
    · intro k
      rw [successors_modify inside]
      split
      · rename_i same
        subst same
        refine List.nodup_append.mpr ⟨h.simple k, by simp, ?_⟩
        rintro x mem y hy rfl
        obtain rfl : x = j := by simpa using hy
        exact fresh mem
      · exact h.simple k
    · intro k
      rw [successors_modify inside]
      split
      · rename_i same
        subst same
        simp [h.loopless k, apart]
      · exact h.loopless k

/-- The edges of the graph are those before and the one added, if it joins two different nodes. -/
theorem WellFormed.hasEdge_addEdge (h : g.WellFormed) :
    (g.addEdge source target).1.HasEdge x y ↔
      g.HasEdge x y ∨
        (x = source ∧ y = target ∧ source ≠ target ∧ source ∈ g.ids ∧ target ∈ g.ids) := by
  rcases h.addEdge_cases source target with ⟨same, old⟩ | ⟨i, j, hi, hj, apart, fresh, added⟩
  · rw [same]
    refine ⟨Or.inl, fun edge => edge.elim id ?_⟩
    rintro ⟨rfl, rfl, apart, known, known'⟩
    rcases old with out | out | same | edge
    · exact absurd known out
    · exact absurd known' out
    · exact absurd same apart
    · exact edge
  · have inside : i < g.adjacency.length := h.size ▸ (List.getElem?_eq_some_iff.mp hi).1
    rw [added]
    constructor
    · rintro ⟨k, l, hk, hl, edge⟩
      rw [Leads, successors_modify inside] at edge
      split at edge
      · rename_i same
        subst same
        rcases List.mem_append.mp edge with edge | edge
        · exact Or.inl ⟨k, l, hk, hl, edge⟩
        · obtain rfl : l = j := by simpa using edge
          obtain rfl : x = source := Option.some.inj (hk.symm.trans hi)
          obtain rfl : y = target := Option.some.inj (hl.symm.trans hj)
          refine Or.inr ⟨rfl, rfl, ?_, List.mem_of_getElem? hi, List.mem_of_getElem? hj⟩
          rintro rfl
          exact apart (h.place_unique hi hj)
      · exact Or.inl ⟨k, l, hk, hl, edge⟩
    · rintro (⟨k, l, hk, hl, edge⟩ | ⟨rfl, rfl, -⟩)
      · refine ⟨k, l, hk, hl, ?_⟩
        rw [Leads, successors_modify inside]
        split
        · exact List.mem_append_left _ edge
        · exact edge
      · refine ⟨i, j, hi, hj, ?_⟩
        rw [Leads, successors_modify inside, if_pos rfl]
        exact List.mem_append_right _ List.mem_cons_self

/-! ## Cycles by name -/

def name (g : Graph) (i : Nat) : String := g.ids.getD i ""

def place (g : Graph) (x : String) : Nat := (g.indexOf? x).getD 0

theorem name_eq (h : g.ids[i]? = some x) : g.name i = x := by
  rw [name, List.getD_eq_getElem?_getD, h, Option.getD_some]

theorem WellFormed.place_eq (h : g.WellFormed) (here : g.ids[i]? = some x) : g.place x = i := by
  rw [place, h.indexOf?_eq_some_iff.mpr here, Option.getD_some]

theorem getElem?_name (bound : i < g.ids.length) : g.ids[i]? = some (g.name i) := by
  have here := List.getElem?_eq_getElem bound
  rw [name_eq here, here]

theorem WellFormed.hasEdge_of_leads (h : g.WellFormed) (edge : Leads g.adjacency.successors i j) :
    g.HasEdge (g.name i) (g.name j) := by
  have inside : i < g.ids.length := h.size ▸ lt_of_leads edge
  have inside' : j < g.ids.length := h.size ▸ h.range i j edge
  exact ⟨i, j, getElem?_name inside, getElem?_name inside', edge⟩

theorem WellFormed.leads_of_hasEdge (h : g.WellFormed) (edge : g.HasEdge x y) :
    Leads g.adjacency.successors (g.place x) (g.place y) := by
  obtain ⟨i, j, hi, hj, edge⟩ := edge
  rwa [h.place_eq hi, h.place_eq hj]

theorem WellFormed.not_hasEdge_self (h : g.WellFormed) (x : String) : ¬ g.HasEdge x x := by
  rintro ⟨i, j, hi, hj, edge⟩
  rw [h.place_unique hi hj] at edge
  exact h.loopless j edge

/-- The nodes of a cycle have their own names. -/
theorem WellFormed.place_name_of_cycle (h : g.WellFormed) {c : List Nat}
    (cycle : IsCycle (Leads g.adjacency.successors) c) (mem : i ∈ c) : g.place (g.name i) = i := by
  obtain ⟨j, edge, -⟩ := Relation.TransGen.head'_iff.mp (cycle.transGen mem mem)
  exact h.place_eq (getElem?_name (h.size ▸ lt_of_leads edge))

theorem WellFormed.map_place_names (h : g.WellFormed) {c : List Nat}
    (cycle : IsCycle (Leads g.adjacency.successors) c) : (g.names c).map g.place = c := by
  have same : ∀ i ∈ c, (g.place ∘ g.name) i = i := fun i mem => h.place_name_of_cycle cycle mem
  calc (g.names c).map g.place
    _ = c.map (g.place ∘ g.name) := List.map_map
    _ = c.map id := List.map_congr_left same
    _ = c := List.map_id c

/-- What is found by name are cycles, and none is found twice. -/
theorem WellFormed.namedCycles_simple (h : g.WellFormed) :
    (∀ c ∈ g.namedCycles, IsCycle g.HasEdge c) ∧ g.namedCycles.Nodup := by
  obtain ⟨cyclic, distinct⟩ := cycles_simple h.range
  constructor
  · intro named found
    obtain ⟨c, mem, rfl⟩ := List.mem_map.mp found
    refine (cyclic c mem).map g.name ?_ fun i j edge => h.hasEdge_of_leads edge
    intro i hi j hj same
    rw [← h.place_name_of_cycle (cyclic c mem) hi, same, h.place_name_of_cycle (cyclic c mem) hj]
  · refine (distinct h.simple).map_on ?_
    intro c mem c' mem' same
    rw [← h.map_place_names (cyclic c mem), same, h.map_place_names (cyclic c' mem')]

/-- In the component of two different nodes, a cycle is found. -/
theorem WellFormed.exists_namedCycle (h : g.WellFormed) (apart : x ≠ y)
    (same : Mutual g.HasEdge x y) :
    ∃ c ∈ g.namedCycles, ∀ z ∈ c, Mutual g.HasEdge x z := by
  have known {x y : String} (apart : x ≠ y) (path : Relation.ReflTransGen g.HasEdge x y) :
      g.ids[g.place x]? = some x := by
    rcases Relation.ReflTransGen.cases_head path with same | ⟨w, ⟨i, j, hi, -⟩, -⟩
    · exact absurd same apart
    · rwa [h.place_eq hi]
  have atX := known apart same.1
  have atY := known apart.symm same.2
  have apart' : g.place x ≠ g.place y := by
    intro equal
    rw [equal] at atX
    exact apart (Option.some.inj (atX.symm.trans atY))
  have same' := same.lift g.place fun _ _ edge => .single (h.leads_of_hasEdge edge)
  obtain ⟨c, mem, inside⟩ := exists_cycle_of_round h.range (same'.round apart')
  refine ⟨g.names c, List.mem_map_of_mem mem, fun z hz => ?_⟩
  obtain ⟨i, hi, rfl⟩ := List.mem_map.mp hz
  have := (inside i hi).lift g.name fun _ _ edge => .single (h.hasEdge_of_leads edge)
  rwa [name_eq atX] at this

/-- No cycle is found just where there is none. -/
theorem WellFormed.namedCycles_eq_nil_iff (h : g.WellFormed) :
    g.namedCycles = [] ↔ ∀ x, ¬ Relation.TransGen g.HasEdge x x := by
  constructor
  · intro none x round
    obtain ⟨y, edge, back⟩ := Relation.TransGen.head'_iff.mp round
    have apart : x ≠ y := by
      rintro rfl
      exact h.not_hasEdge_self x edge
    obtain ⟨c, mem, -⟩ := h.exists_namedCycle apart ⟨.single edge, back⟩
    rw [none] at mem
    cases mem
  · intro acyclic
    refine List.eq_nil_iff_forall_not_mem.mpr fun c mem => ?_
    have cycle := h.namedCycles_simple.1 c mem
    obtain ⟨x, hx⟩ := List.exists_mem_of_ne_nil c cycle.nonempty
    exact acyclic x (cycle.transGen hx hx)

end

end ArchAtlas.Graph
