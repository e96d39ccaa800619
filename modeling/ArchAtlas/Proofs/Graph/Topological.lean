import ArchAtlas.Proofs.Graph.Components

namespace ArchAtlas.Graph

/-- No edge leads back: where one leads from the list at `i` to the list at `j`, `i` is not after `j`. -/
def Forward (edges : List (Nat × Nat)) (found : List (List Nat)) : Prop :=
  ∀ (i j : Nat) (c d : List Nat), found[i]? = some c → found[j]? = some d →
    ∀ u ∈ c, ∀ v ∈ d, Joined edges u v → i ≤ j

/-- What holds after some roots: with a node, all that lead to it are in components, and none of them in
a component that was found after its own. -/
structure Upstream (edges : List (Nat × Nat)) (p : Partition) : Prop where
  closed : ∀ u v, Joined edges u v → v ∈ p.assigned → u ∈ p.assigned
  ordered : p.components.Pairwise fun later earlier =>
    ∀ u ∈ later, ∀ v ∈ earlier, ¬ Joined edges u v

section

variable {edges : List (Nat × Nat)} {out into : Nat → List Nat} {n root : Nat}
variable {roots rest : List Nat} {p : Partition}

/-- A component is gathered until all that lead to it are in components, and takes none of them from a
component found before. -/
theorem Upstream.extend (h : Upstream edges p) (lists : Neighbours edges out into)
    (range : ∀ e ∈ edges, e.1 < n ∧ e.2 < n) (parted : Parted edges n roots p)
    (order : departures out n (edges.length + n) = roots ++ root :: rest) :
    Upstream edges (p.extend into n root) := by
  rcases extend_cases lists range parted.nodup parted.bound (root_lt lists range order) with
    ⟨-, same⟩ | ⟨-, g, gathers, done, -, gathered⟩
  · rwa [same]
  · rw [gathered]
    refine ⟨?_, List.pairwise_cons.mpr ⟨?_, h.ordered⟩⟩
    · intro u v edge mem
      rw [gathers.assigned] at mem
      rcases List.mem_append.mp mem with mem | old
      · exact gathers.closed v mem (by simp [done]) u (lists.mem_into.mpr edge)
      · have known : u ∈ p.assigned := h.closed u v edge old
        rw [gathers.assigned]
        exact List.mem_append_right _ known
    · intro earlier found u hu v hv edge
      have old : v ∈ p.assigned :=
        parted.perm.mem_iff.mpr (List.mem_flatten.mpr ⟨earlier, found, hv⟩)
      have known : u ∈ p.assigned := h.closed u v edge old
      exact gathers.fresh (List.mem_reverse.mp hu) known

theorem upstream_foldl (h : Upstream edges p) (lists : Neighbours edges out into)
    (range : ∀ e ∈ edges, e.1 < n ∧ e.2 < n) (parted : Parted edges n roots p)
    (order : departures out n (edges.length + n) = roots ++ rest) :
    Upstream edges (rest.foldl (Partition.extend into n) p) := by
  induction rest generalizing roots p with
  | nil => exact h
  | cons root rest ih =>
    have order' : departures out n (edges.length + n) = (roots ++ [root]) ++ rest := by
      rw [order, List.append_assoc]
      rfl
    exact ih (h.extend lists range parted order) (parted.extend lists range order) order'

/-- That no list has an edge to one before it, said by their positions. -/
theorem forward_of_pairwise {found : List (List Nat)}
    (ordered : found.Pairwise fun earlier later => ∀ u ∈ later, ∀ v ∈ earlier, ¬ Joined edges u v) :
    Forward edges found := by
  intro i j c d hi hj u hu v hv edge
  by_contra back
  obtain ⟨inside, rfl⟩ := List.getElem?_eq_some_iff.mp hi
  obtain ⟨inside', rfl⟩ := List.getElem?_eq_some_iff.mp hj
  have earlier : j < i := by omega
  exact List.pairwise_iff_getElem.mp ordered j i inside' inside earlier u hu v hv edge

theorem forward_componentsBy (lists : Neighbours edges out into)
    (range : ∀ e ∈ edges, e.1 < n ∧ e.2 < n) :
    Forward edges (componentsBy out into n edges.length) := by
  have start : Upstream edges ⟨[], []⟩ := ⟨by simp, .nil⟩
  have h := upstream_foldl start lists range (.start edges n) rfl
  exact forward_of_pairwise (List.pairwise_reverse.mpr h.ordered)

end

/-- Whatever the edges between the nodes below `n`, and in whatever order the neighbours of a node are
visited, the strongly connected components come in a topological order: each edge stays in a component
or leads to a later one. -/
theorem components_topological {n : Nat} {edges : List (Nat × Nat)}
    (range : ∀ e ∈ edges, e.1 < n ∧ e.2 < n) :
    (∀ out into, Neighbours edges out into →
      AreComponents edges n (componentsBy out into n edges.length) ∧
      Forward edges (componentsBy out into n edges.length)) ∧
    ∃ found, components? n edges = some found ∧ AreComponents edges n found ∧
      Forward edges found := by
  have newest := neighbours_newest edges
  refine ⟨fun out into lists => ?_, components n edges, ?_, ?_⟩
  · exact ⟨areComponents_componentsBy lists range, forward_componentsBy lists range⟩
  · rw [components?, if_pos]
    simpa using range
  · exact ⟨areComponents_componentsBy newest range, forward_componentsBy newest range⟩

/-- Nodes numbered against the edges: the components come from the last node to the first. -/
def descending : List (Nat × Nat) :=
  [(1, 0), (0, 1), (3, 1), (3, 0), (2, 3), (3, 2), (2, 2), (4, 2), (4, 0)]

theorem components_topological_descending :
    (∀ e ∈ descending, e.1 < 5 ∧ e.2 < 5) ∧
    components? 5 descending = some [[4], [2, 3], [0, 1]] ∧
    Forward descending [[4], [2, 3], [0, 1]] := by
  have range : ∀ e ∈ descending, e.1 < 5 ∧ e.2 < 5 := by decide
  have value : components? 5 descending = some [[4], [2, 3], [0, 1]] := by decide
  obtain ⟨-, found, same, -, forward⟩ := components_topological range
  obtain rfl := Option.some.inj (same.symm.trans value)
  exact ⟨range, value, forward⟩

end ArchAtlas.Graph
