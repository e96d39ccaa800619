import ArchAtlas.Graph.Components
import ArchAtlas.Proofs.Graph.Reachability
import Mathlib.Algebra.BigOperators.Group.Finset.Piecewise

/-!
The first pass. It sees every node and leaves it once, and the order in which nodes are left keeps
components apart: of all that is reachable from a component, its first node was left last.

* `Departing` is what the stack, the nodes seen and the nodes left have in common;
* `depart_done`: the turns allowed are enough, and the pass ends with an empty stack;
* `Neighbours`: the order in which the neighbours of a node are visited is left open;
* `Settled` is the order of leaving, and `reach_earlier` what the second pass needs of it.
-/

namespace ArchAtlas.Graph

/-- Nodes left, the last first. Where an edge goes from a node left no later than `x` to one that is
left after `x`, that one leads to `x`. -/
def Settled (out : Nat → List Nat) (left : List Nat) : Prop :=
  ∀ later x earlier, left = later ++ x :: earlier →
    ∀ u ∈ x :: earlier, ∀ w ∈ out u, w ∈ x :: earlier ∨ Relation.ReflTransGen (Leads out) w x

/-- What holds at each turn of the first pass over the nodes below `n`. -/
structure Departing (out : Nat → List Nat) (n : Nat) (stack : List (Nat × List Nat))
    (d : Departures) : Prop where
  nodup : (stack.map Prod.fst ++ d.left).Nodup
  seen_iff : ∀ v, v ∈ d.seen ↔ v ∈ stack.map Prod.fst ∨ v ∈ d.left
  bound : ∀ v ∈ d.seen, v < n
  reach : (stack.map Prod.fst).Pairwise fun above below =>
    Relation.ReflTransGen (Leads out) below above
  ahead : ∀ f ∈ stack, ∀ w ∈ f.2, w ∈ out f.1
  looked : ∀ f ∈ stack, ∀ w ∈ out f.1, w ∈ f.2 ∨ w ∈ d.seen
  closed : ∀ u ∈ d.left, ∀ w ∈ out u, w ∈ d.seen
  settled : Settled out d.left

section

variable {out : Nat → List Nat} {n v w : Nat} {rest : List Nat} {stack : List (Nat × List Nat)}
variable {d : Departures}

theorem Departing.empty (out : Nat → List Nat) (n : Nat) : Departing out n [] ⟨[], []⟩ where
  nodup := by simp
  seen_iff := by simp
  bound := by simp
  reach := by simp
  ahead := by simp
  looked := by simp
  closed := by simp
  settled := by intro later x earlier h; simp at h

/-- A root that has not been seen is put on the empty stack. -/
theorem Departing.root (h : Departing out n [] d) (bound : v < n) (new : v ∉ d.seen) :
    Departing out n [(v, out v)] { d with seen := v :: d.seen } where
  nodup := by
    have fresh : v ∉ d.left := fun mem => new ((h.seen_iff v).mpr (Or.inr mem))
    simpa [fresh] using h.nodup
  seen_iff u := by simp [h.seen_iff u]
  bound u mem := by
    rcases List.mem_cons.mp mem with rfl | mem
    · exact bound
    · exact h.bound u mem
  reach := List.pairwise_singleton _ _
  ahead := by simp
  looked := by simp +contextual
  closed u mem x hx := List.mem_cons_of_mem _ (h.closed u mem x hx)
  settled := h.settled

/-- The last node on the stack is left once all its successors have been looked at. -/
theorem Departing.leave (h : Departing out n ((v, []) :: stack) d) :
    Departing out n stack { d with left := v :: d.left } where
  nodup := List.perm_middle.nodup_iff.mpr h.nodup
  seen_iff u := by
    rw [h.seen_iff u]
    simp only [List.map_cons, List.mem_cons]
    tauto
  bound := h.bound
  reach := (List.pairwise_cons.mp h.reach).2
  ahead f mem := h.ahead f (List.mem_cons_of_mem _ mem)
  looked f mem := h.looked f (List.mem_cons_of_mem _ mem)
  closed u mem x hx := by
    rcases List.mem_cons.mp mem with rfl | mem
    · simpa using h.looked (u, []) List.mem_cons_self x hx
    · exact h.closed u mem x hx
  settled := by
    intro later x earlier split
    cases later with
    | cons y later =>
      simp only [List.cons_append, List.cons.injEq] at split
      exact h.settled later x earlier split.2
    | nil =>
      simp only [List.nil_append, List.cons.injEq] at split
      obtain ⟨rfl, rfl⟩ := split
      intro u mem w edge
      have seen : w ∈ d.seen := by
        rcases List.mem_cons.mp mem with rfl | mem
        · simpa using h.looked (u, []) List.mem_cons_self w edge
        · exact h.closed u mem w edge
      -- All that is still on the stack leads to the node that is left now.
      rcases (h.seen_iff w).mp seen with mem | mem
      · rcases List.mem_cons.mp mem with rfl | mem
        · exact Or.inl List.mem_cons_self
        · exact Or.inr ((List.pairwise_cons.mp h.reach).1 w mem)
      · exact Or.inl (List.mem_cons_of_mem _ mem)

/-- A successor that has been seen is passed over. -/
theorem Departing.pass (h : Departing out n ((v, w :: rest) :: stack) d) (seen : w ∈ d.seen) :
    Departing out n ((v, rest) :: stack) d where
  nodup := h.nodup
  seen_iff := h.seen_iff
  bound := h.bound
  reach := h.reach
  ahead f mem x hx := by
    rcases List.mem_cons.mp mem with rfl | mem
    · exact h.ahead (v, w :: rest) List.mem_cons_self x (List.mem_cons_of_mem _ hx)
    · exact h.ahead f (List.mem_cons_of_mem _ mem) x hx
  looked f mem x hx := by
    rcases List.mem_cons.mp mem with rfl | mem
    · rcases h.looked (v, w :: rest) List.mem_cons_self x hx with ahead | before
      · rcases List.mem_cons.mp ahead with rfl | ahead
        · exact Or.inr seen
        · exact Or.inl ahead
      · exact Or.inr before
    · exact h.looked f (List.mem_cons_of_mem _ mem) x hx
  closed := h.closed
  settled := h.settled

/-- A successor that has not been seen is put on the stack. -/
theorem Departing.enter (h : Departing out n ((v, w :: rest) :: stack) d)
    (range : ∀ u, ∀ x ∈ out u, x < n) (new : w ∉ d.seen) :
    Departing out n ((w, out w) :: (v, rest) :: stack) { d with seen := w :: d.seen } := by
  have edge : w ∈ out v := h.ahead (v, w :: rest) List.mem_cons_self w List.mem_cons_self
  have fresh : w ∉ ((v, w :: rest) :: stack).map Prod.fst ∧ w ∉ d.left := by
    constructor
    · exact fun mem => new ((h.seen_iff w).mpr (Or.inl mem))
    · exact fun mem => new ((h.seen_iff w).mpr (Or.inr mem))
  refine ⟨?_, ?_, ?_, ?_, ?_, ?_, ?_, h.settled⟩
  · have := h.nodup
    simp only [List.map_cons, List.cons_append, List.nodup_cons, List.mem_cons, List.mem_append]
      at this fresh ⊢
    exact ⟨by tauto, this⟩
  · intro u
    simp only [List.mem_cons, List.map_cons, h.seen_iff u]
    tauto
  · intro u mem
    rcases List.mem_cons.mp mem with rfl | mem
    · exact range v u edge
    · exact h.bound u mem
  · refine List.pairwise_cons.mpr ⟨?_, h.reach⟩
    intro u mem
    rcases List.mem_cons.mp mem with rfl | mem
    · exact .single edge
    · exact ((List.pairwise_cons.mp h.reach).1 u mem).tail edge
  · intro f mem x hx
    rcases List.mem_cons.mp mem with rfl | mem
    · exact hx
    · rcases List.mem_cons.mp mem with rfl | mem
      · exact h.ahead (v, w :: rest) List.mem_cons_self x (List.mem_cons_of_mem _ hx)
      · exact h.ahead f (List.mem_cons_of_mem _ mem) x hx
  · intro f mem x hx
    rcases List.mem_cons.mp mem with rfl | mem
    · exact Or.inl hx
    · rcases List.mem_cons.mp mem with rfl | mem
      · rcases h.looked (v, w :: rest) List.mem_cons_self x hx with ahead | before
        · rcases List.mem_cons.mp ahead with rfl | ahead
          · exact Or.inr List.mem_cons_self
          · exact Or.inl ahead
        · exact Or.inr (List.mem_cons_of_mem _ before)
      · rcases h.looked f (List.mem_cons_of_mem _ mem) x hx with ahead | before
        · exact Or.inl ahead
        · exact Or.inr (List.mem_cons_of_mem _ before)
  · intro u mem x hx
    exact List.mem_cons_of_mem _ (h.closed u mem x hx)

end

/-! ## The whole pass -/

/-- The turns left for the nodes on the stack: one for each successor ahead, and one to leave. -/
def stacked : List (Nat × List Nat) → Nat
  | [] => 0
  | (_, rest) :: stack => rest.length + 1 + stacked stack

@[simp]
theorem stacked_nil : stacked [] = 0 := rfl

@[simp]
theorem stacked_cons (v : Nat) (rest : List Nat) (stack : List (Nat × List Nat)) :
    stacked ((v, rest) :: stack) = rest.length + 1 + stacked stack := rfl

/-- Each turn takes one from what is left to do, so that the pass ends with all seen nodes left. -/
theorem depart_done {out : Nat → List Nat} {n fuel : Nat} {stack : List (Nat × List Nat)}
    {d : Departures} (range : ∀ u, ∀ x ∈ out u, x < n) (h : Departing out n stack d)
    (enough : stacked stack + pending n (fun v => (out v).length) d.seen ≤ fuel) :
    Departing out n [] (depart out fuel stack d) := by
  induction fuel generalizing stack d with
  | zero =>
    cases stack with
    | nil => exact h
    | cons f stack => rw [stacked] at enough; omega
  | succ fuel ih =>
    match stack with
    | [] => exact h
    | (v, []) :: stack =>
      rw [depart]
      simp only [stacked_cons, List.length_nil] at enough
      exact ih h.leave (by dsimp only; omega)
    | (v, w :: rest) :: stack =>
      rw [depart]
      simp only [stacked_cons, List.length_cons] at enough
      split
      · rename_i seen
        exact ih (h.pass seen) (by rw [stacked_cons]; omega)
      · rename_i new
        have entered := h.enter range new
        have turns := pending_cons (fun v => (out v).length)
          (entered.bound w List.mem_cons_self) new
        refine ih entered ?_
        dsimp only [stacked_cons]
        omega

theorem depart_seen {out : Nat → List Nat} {fuel v : Nat} {stack : List (Nat × List Nat)}
    {d : Departures} (h : v ∈ d.seen) : v ∈ (depart out fuel stack d).seen := by
  fun_induction depart out fuel stack d with
  | case1 => exact h
  | case2 => exact h
  | case3 _ _ _ _ ih => exact ih h
  | case4 _ _ _ _ _ _ _ ih => exact ih h
  | case5 _ _ _ _ _ _ _ ih => exact ih (List.mem_cons_of_mem _ h)

/-! ## In whatever order neighbours are visited -/

/-- Lists of the neighbours of each node, in any order: its targets and its sources, one for each edge. -/
structure Neighbours (edges : List (Nat × Nat)) (out into : Nat → List Nat) : Prop where
  targets : ∀ v, (out v).Perm ((edges.filter fun e => e.1 = v).map Prod.snd)
  sources : ∀ v, (into v).Perm ((edges.filter fun e => e.2 = v).map Prod.fst)

section

variable {edges : List (Nat × Nat)} {out into : Nat → List Nat} {n root u v : Nat} {d : Departures}

/-- The newest edge first is one such order. -/
theorem neighbours_newest (edges : List (Nat × Nat)) :
    Neighbours edges (outgoing edges) (incoming edges) := by
  constructor
  · intro v
    refine ((List.reverse_perm edges).filterMap _).trans (.of_eq ?_)
    simp only [← List.filterMap_eq_map', List.filterMap_filter, decide_eq_true_eq]
  · intro v
    refine ((List.reverse_perm edges).filterMap _).trans (.of_eq ?_)
    simp only [← List.filterMap_eq_map', List.filterMap_filter, decide_eq_true_eq]

theorem Neighbours.mem_out (h : Neighbours edges out into) : v ∈ out u ↔ (u, v) ∈ edges := by
  rw [(h.targets u).mem_iff]
  simp

theorem Neighbours.mem_into (h : Neighbours edges out into) : u ∈ into v ↔ (u, v) ∈ edges := by
  rw [(h.sources v).mem_iff]
  simp

theorem Neighbours.length_out (h : Neighbours edges out into) (v : Nat) :
    (out v).length = edges.countP fun e => e.1 = v := by
  rw [(h.targets v).length_eq, List.length_map, List.countP_eq_length_filter]

/-- There are no more edges at the nodes than edges. -/
theorem Neighbours.sum_out_le (h : Neighbours edges out into) (n : Nat) :
    ∑ v ∈ Finset.range n, (out v).length ≤ edges.length := by
  simp only [h.length_out]
  clear h
  induction edges with
  | nil => simp
  | cons e edges ih =>
    have one : ∑ v ∈ Finset.range n, (if e.1 = v then 1 else 0) ≤ 1 := by
      rw [Finset.sum_ite_eq]
      split <;> omega
    simp only [List.countP_cons, decide_eq_true_eq, Finset.sum_add_distrib, List.length_cons]
    omega

theorem departFrom_departing (lists : Neighbours edges out into)
    (range : ∀ e ∈ edges, e.1 < n ∧ e.2 < n) (h : Departing out n [] d) (bound : root < n) :
    Departing out n [] (departFrom out (edges.length + n) d root) := by
  unfold departFrom
  split
  · exact h
  · rename_i new
    refine depart_done (fun u x edge => (range _ (lists.mem_out.mp edge)).2) (h.root bound new) ?_
    have turns := pending_cons (fun v => (out v).length) bound new
    have total := pending_le n (fun v => (out v).length) d.seen
    have few := lists.sum_out_le n
    dsimp only [stacked_cons, stacked_nil]
    omega

theorem departFrom_seen {fuel : Nat} (h : v ∈ d.seen ∨ v = root) :
    v ∈ (departFrom out fuel d root).seen := by
  unfold departFrom
  split
  · rename_i seen
    rcases h with h | rfl
    · exact h
    · exact seen
  · apply depart_seen
    rcases h with h | rfl
    · exact List.mem_cons_of_mem _ h
    · exact List.mem_cons_self

/-- After some roots, the stack is empty and all of them have been seen. -/
theorem departures_departing (lists : Neighbours edges out into)
    (range : ∀ e ∈ edges, e.1 < n ∧ e.2 < n) {roots : List Nat}
    (bound : ∀ v ∈ roots, v < n) (h : Departing out n [] d) :
    Departing out n [] (roots.foldl (departFrom out (edges.length + n)) d) ∧
    ∀ v, v ∈ d.seen ∨ v ∈ roots →
      v ∈ (roots.foldl (departFrom out (edges.length + n)) d).seen := by
  induction roots generalizing d with
  | nil => exact ⟨h, by simp⟩
  | cons root roots ih =>
    obtain ⟨done, seen⟩ := ih (fun v mem => bound v (List.mem_cons_of_mem _ mem))
      (departFrom_departing lists range h (bound root List.mem_cons_self))
    refine ⟨done, fun v hv => seen v ?_⟩
    rcases hv with hv | hv
    · exact Or.inl (departFrom_seen (Or.inl hv))
    · rcases List.mem_cons.mp hv with rfl | hv
      · exact Or.inl (departFrom_seen (Or.inr rfl))
      · exact Or.inr hv

/-- Every node is left once, in a settled order. -/
theorem departures_settled (lists : Neighbours edges out into)
    (range : ∀ e ∈ edges, e.1 < n ∧ e.2 < n) :
    (departures out n (edges.length + n)).Nodup ∧
    (∀ v, v ∈ departures out n (edges.length + n) ↔ v < n) ∧
    Settled out (departures out n (edges.length + n)) := by
  obtain ⟨done, seen⟩ := departures_departing lists range (fun v => List.mem_range.mp)
    (Departing.empty out n)
  refine ⟨done.nodup, fun v => ⟨fun mem => ?_, fun bound => ?_⟩, done.settled⟩
  · exact done.bound v ((done.seen_iff v).mpr (Or.inr mem))
  · rcases (done.seen_iff v).mp (seen v (Or.inr (List.mem_range.mpr bound))) with mem | mem
    · cases mem
    · exact mem

end

/-- What the second pass relies on: where a node leads to `r`, the two lie in one component, or some
node of its component comes before `r`. -/
theorem reach_earlier {out : Nat → List Nat} {left before after : List Nat} {r y : Nat}
    (nodup : left.Nodup) (settled : Settled out left) (closed : ∀ u ∈ left, ∀ w ∈ out u, w ∈ left)
    (split : left = before ++ r :: after) (mem : y ∈ left)
    (path : Relation.ReflTransGen (Leads out) y r) :
    Mutual (Leads out) y r ∨ ∃ f ∈ before, Mutual (Leads out) y f := by
  by_contra none
  obtain ⟨apart, none⟩ := not_or.mp none
  have later : y ∈ after := by
    rw [split] at mem
    rcases List.mem_append.mp mem with mem | mem
    · exact absurd ⟨y, mem, .refl _ y⟩ none
    · rcases List.mem_cons.mp mem with rfl | mem
      · exact absurd (.refl _ y) apart
      · exact mem
  obtain ⟨mid, f, earlier, rfl, same, first⟩ := exists_first ⟨y, later, Mutual.refl (Leads out) y⟩
  have split' : left = (before ++ r :: mid) ++ f :: earlier := by simp [split]
  have outside : r ∉ f :: earlier := by
    rw [split, ← List.cons_append, ← List.append_assoc] at nodup
    have := (List.nodup_append.mp nodup).2.2 r (by simp)
    exact fun mem => this r mem rfl
  -- The path from `f` to `r` leaves what was left before `f`, to a node of the component of `f`.
  obtain ⟨u, v, reach, inside, edge, exit, -⟩ := exists_exit (· ∈ f :: earlier)
    (same.2.trans path) List.mem_cons_self outside
  have back : Relation.ReflTransGen (Leads out) v f :=
    (settled _ f earlier split' u inside v edge).resolve_left exit
  have both : Mutual (Leads out) y v := ⟨same.1.trans (reach.tail edge), back.trans same.2⟩
  have place : v ∈ left := closed u (by rw [split']; exact List.mem_append_right _ inside) v edge
  rw [split', List.mem_append, List.mem_append, List.mem_cons] at place
  rcases place with (place | rfl | place) | place
  · exact none ⟨v, place, both⟩
  · exact apart both
  · exact first v place both
  · exact exit place

end ArchAtlas.Graph
