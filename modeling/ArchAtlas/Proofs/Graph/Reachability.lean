import Mathlib.Algebra.Order.BigOperators.Group.Finset
import Mathlib.Data.List.Chain
import Mathlib.Logic.Relation

namespace ArchAtlas.Graph

variable {α β : Type}

/-- Of the items of a list that have a property, one comes first. -/
theorem exists_first {p : α → Prop} {items : List α} (h : ∃ x ∈ items, p x) :
    ∃ before x after, items = before ++ x :: after ∧ p x ∧ ∀ z ∈ before, ¬ p z := by
  classical
  obtain ⟨x, mem, hx⟩ := h
  have some : (items.find? fun z => decide (p z)).isSome := by
    rw [List.find?_isSome]
    exact ⟨x, mem, decide_eq_true hx⟩
  obtain ⟨y, found⟩ := Option.isSome_iff_exists.mp some
  obtain ⟨hy, before, after, split, none⟩ := List.find?_eq_some_iff_append.mp found
  exact ⟨before, y, after, split, of_decide_eq_true hy, fun z hz => by simpa using none z hz⟩

/-- Of the items of a list that have a property, one comes last. -/
theorem exists_last {p : α → Prop} {items : List α} (h : ∃ x ∈ items, p x) :
    ∃ before x after, items = before ++ x :: after ∧ p x ∧ ∀ z ∈ after, ¬ p z := by
  obtain ⟨x, mem, hx⟩ := h
  obtain ⟨after, y, before, split, hy, none⟩ := exists_first ⟨x, List.mem_reverse.mpr mem, hx⟩
  refine ⟨before.reverse, y, after.reverse, ?_, hy, fun z hz => none z (List.mem_reverse.mp hz)⟩
  rw [← List.reverse_reverse items, split]
  simp

def Leads (out : Nat → List Nat) (u v : Nat) : Prop := v ∈ out u

/-- Each of two nodes is reachable from the other. -/
def Mutual (edge : α → α → Prop) (x y : α) : Prop :=
  Relation.ReflTransGen edge x y ∧ Relation.ReflTransGen edge y x

section

variable {edge : α → α → Prop} {x y z : α}

theorem Mutual.refl (edge : α → α → Prop) (x : α) : Mutual edge x x := ⟨.refl, .refl⟩

theorem Mutual.symm (h : Mutual edge x y) : Mutual edge y x := ⟨h.2, h.1⟩

theorem Mutual.trans (h : Mutual edge x y) (h' : Mutual edge y z) : Mutual edge x z :=
  ⟨h.1.trans h'.1, h'.2.trans h.2⟩

theorem Mutual.lift {edge' : β → β → Prop} (f : α → β)
    (h : ∀ x y, edge x y → Relation.ReflTransGen edge' (f x) (f y)) (hxy : Mutual edge x y) :
    Mutual edge' (f x) (f y) :=
  ⟨Relation.ReflTransGen.lift' f h _ _ hxy.1, Relation.ReflTransGen.lift' f h _ _ hxy.2⟩

/-- Between two different nodes that are mutual there is a way round. -/
theorem Mutual.round (h : Mutual edge x y) (apart : x ≠ y) : Relation.TransGen edge x x := by
  rcases Relation.ReflTransGen.cases_head h.1 with same | ⟨z, step, rest⟩
  · exact absurd same apart
  · exact Relation.TransGen.head' step (rest.trans h.2)

/-- A path from inside a set to outside leaves it along an edge. -/
theorem exists_exit (inside : α → Prop) (path : Relation.ReflTransGen edge x y) (hx : inside x)
    (hy : ¬ inside y) :
    ∃ u v, Relation.ReflTransGen edge x u ∧ inside u ∧ edge u v ∧ ¬ inside v ∧
      Relation.ReflTransGen edge v y := by
  induction path with
  | refl => exact absurd hx hy
  | @tail u v before step ih =>
    by_cases hu : inside u
    · exact ⟨u, v, before, hu, step, hy, .refl⟩
    · obtain ⟨s, t, reach, hs, leave, ht, rest⟩ := ih hu
      exact ⟨s, t, reach, hs, leave, ht, rest.tail step⟩

/-- Nodes without repetition, each with an edge to the next and the last with an edge to the first. -/
structure IsCycle (edge : α → α → Prop) (c : List α) : Prop where
  nonempty : c ≠ []
  nodup : c.Nodup
  chain : c.IsChain edge
  closes : ∀ x y, c.getLast? = some x → c.head? = some y → edge x y

/-- From each node of a cycle there is a way along it to each other, and back to itself. -/
theorem IsCycle.transGen {c : List α} (h : IsCycle edge c) (hx : x ∈ c) (hy : y ∈ c) :
    Relation.TransGen edge x y := by
  have toLast : Relation.ReflTransGen edge x (c.getLast h.nonempty) :=
    h.chain.backwards_induction (Relation.ReflTransGen edge · (c.getLast h.nonempty)) c
      (fun _ _ step rest => .head step rest) (fun _ => .refl) x hx
  have fromHead : Relation.ReflTransGen edge (c.head h.nonempty) y :=
    h.chain.induction (Relation.ReflTransGen edge (c.head h.nonempty)) c
      (fun _ _ step before => .tail before step) (fun _ => .refl) y hy
  have back : edge (c.getLast h.nonempty) (c.head h.nonempty) :=
    h.closes _ _ (List.getLast?_eq_some_getLast h.nonempty) (List.head?_eq_some_head h.nonempty)
  exact .trans_right toLast (.head' back fromHead)

theorem IsCycle.mutual {c : List α} (h : IsCycle edge c) (hx : x ∈ c) (hy : y ∈ c) :
    Mutual edge x y :=
  ⟨(h.transGen hx hy).to_reflTransGen, (h.transGen hy hx).to_reflTransGen⟩

theorem IsCycle.map {edge' : β → β → Prop} {c : List α} (h : IsCycle edge c) (f : α → β)
    (inj : ∀ x ∈ c, ∀ y ∈ c, f x = f y → x = y) (step : ∀ x y, edge x y → edge' (f x) (f y)) :
    IsCycle edge' (c.map f) where
  nonempty := by simpa using h.nonempty
  nodup := h.nodup.map_on inj
  chain := by
    rw [List.isChain_map]
    exact h.chain.imp step
  closes x' y' hx hy := by
    rw [List.getLast?_map, Option.map_eq_some_iff] at hx
    rw [List.head?_map, Option.map_eq_some_iff] at hy
    obtain ⟨x, last, rfl⟩ := hx
    obtain ⟨y, first, rfl⟩ := hy
    exact step x y (h.closes x y last first)

/-- Where no node has an edge to itself, a cycle has at least two nodes. -/
theorem IsCycle.two_le_length {c : List α} (h : IsCycle edge c) (loopless : ∀ x, ¬ edge x x) :
    2 ≤ c.length := by
  match c with
  | [] => exact absurd rfl h.nonempty
  | [x] => exact absurd (h.closes x x rfl rfl) (loopless x)
  | _ :: _ :: rest => simp

end

/-! ## The work left to a search -/

/-- The turns that a search over the nodes below `n` still has to take for nodes it has not seen. -/
def pending (n : Nat) (degree : Nat → Nat) (seen : List Nat) : Nat :=
  ∑ v ∈ Finset.range n \ seen.toFinset, (degree v + 1)

theorem pending_cons {n v : Nat} (degree : Nat → Nat) {seen : List Nat} (bound : v < n)
    (new : v ∉ seen) :
    pending n degree seen = degree v + 1 + pending n degree (v :: seen) := by
  have mem : v ∈ Finset.range n \ seen.toFinset := by simp [bound, new]
  rw [pending, pending, List.toFinset_cons, Finset.sdiff_insert]
  exact (Finset.add_sum_erase _ (fun v => degree v + 1) mem).symm

theorem pending_le (n : Nat) (degree : Nat → Nat) (seen : List Nat) :
    pending n degree seen ≤ (∑ v ∈ Finset.range n, degree v) + n := by
  calc pending n degree seen
    _ ≤ ∑ v ∈ Finset.range n, (degree v + 1) := Finset.sum_le_sum_of_subset Finset.sdiff_subset
    _ = (∑ v ∈ Finset.range n, degree v) + n := by simp [Finset.sum_add_distrib]

end ArchAtlas.Graph
