import ArchAtlas.Proofs.Graph.Departures

/-!
The components found in two passes are the classes of mutual reachability.

* `Gathers` is what a component being gathered has in common with the nodes assigned before;
* `Parted` is what the components found so far have in common with the roots taken so far;
* `extend_cases` is what one more root does, `Parted.extend` that it keeps `Parted`;
* `componentsBy_classes`: every node below `n` is in one component, with all nodes mutual to it;
* `AreComponents` says so of the lists found, `components_exact` for every order of the neighbours;
* `length_le_components`, `exists_representatives`: no more nodes than there are components can lie
  pairwise apart, and as many do.
-/

namespace ArchAtlas.Graph

/-! ## Gathering one component -/

/-- Adding some nodes puts those that are new in front of each list. -/
theorem foldl_add (items : List Nat) (g : Gathering) :
    ∃ new, items.foldl Gathering.add g = ⟨new ++ g.assigned, new ++ g.members, new ++ g.stack⟩ ∧
      new.Nodup ∧ (∀ v ∈ new, v ∈ items ∧ v ∉ g.assigned) ∧ ∀ v ∈ items, v ∈ new ++ g.assigned := by
  induction items generalizing g with
  | nil => exact ⟨[], rfl, by simp, by simp, by simp⟩
  | cons x items ih =>
    rw [List.foldl_cons]
    by_cases old : x ∈ g.assigned
    · obtain ⟨new, added, nodup, fresh, all⟩ := ih g
      refine ⟨new, by rw [Gathering.add, if_pos old, added], nodup, ?_, ?_⟩
      · exact fun v mem => ⟨List.mem_cons_of_mem _ (fresh v mem).1, (fresh v mem).2⟩
      · intro v mem
        rcases List.mem_cons.mp mem with rfl | mem
        · exact List.mem_append_right _ old
        · exact all v mem
    · obtain ⟨new, added, nodup, fresh, all⟩ := ih (g.add x)
      rw [added]
      simp only [Gathering.add, if_neg old] at fresh all ⊢
      refine ⟨new ++ [x], by simp, ?_, ?_, ?_⟩
      · refine List.nodup_append.mpr ⟨nodup, by simp, ?_⟩
        rintro v mem w hw rfl
        exact (fresh v mem).2 (by simp_all)
      · intro v mem
        rcases List.mem_append.mp mem with mem | mem
        · have := fresh v mem
          exact ⟨List.mem_cons_of_mem _ this.1, fun h => this.2 (List.mem_cons_of_mem _ h)⟩
        · obtain rfl : v = x := by simpa using mem
          exact ⟨List.mem_cons_self, old⟩
      · intro v mem
        rcases List.mem_cons.mp mem with rfl | mem
        · simp
        · simpa using all v mem

/-- What holds at each turn of gathering against the edges from a root, where the nodes in `before` were
in components already. -/
structure Gathers (edge : Nat → Nat → Prop) (into : Nat → List Nat) (before : List Nat) (root : Nat)
    (g : Gathering) : Prop where
  assigned : g.assigned = g.members ++ before
  nodup : g.assigned.Nodup
  holds : root ∈ g.members
  stack : ∀ v ∈ g.stack, v ∈ g.members
  reach : ∀ v ∈ g.members, Relation.ReflTransGen edge v root
  closed : ∀ v ∈ g.members, v ∉ g.stack → ∀ u ∈ into v, u ∈ g.assigned

section

variable {edge : Nat → Nat → Prop} {into : Nat → List Nat} {before : List Nat} {root n : Nat}

theorem Gathers.start (nodup : before.Nodup) (new : root ∉ before) :
    Gathers edge into before root ⟨root :: before, [root], [root]⟩ where
  assigned := rfl
  nodup := List.nodup_cons.mpr ⟨new, nodup⟩
  holds := List.mem_cons_self
  stack := by simp
  reach v mem := by
    obtain rfl : v = root := by simpa using mem
    exact .refl
  closed v mem out := absurd mem out

/-- What is gathered was in no component before. -/
theorem Gathers.fresh {g : Gathering} (h : Gathers edge into before root g) {v : Nat}
    (mem : v ∈ g.members) : v ∉ before := by
  have nodup := h.nodup
  rw [h.assigned] at nodup
  exact fun old => (List.nodup_append.mp nodup).2.2 v mem v old rfl

/-- One turn: a node leaves the stack, and all that lead to it and are new join the component. -/
theorem Gathers.turn (edges : ∀ u v, u ∈ into v → edge u v) {g : Gathering}
    (h : Gathers edge into before root g) {v : Nat} {stack : List Nat} (top : g.stack = v :: stack) :
    ∃ new, (into v).foldl Gathering.add { g with stack } =
        ⟨new ++ g.assigned, new ++ g.members, new ++ stack⟩ ∧
      Gathers edge into before root ⟨new ++ g.assigned, new ++ g.members, new ++ stack⟩ ∧
      ∀ u ∈ new, u ∈ into v := by
  obtain ⟨new, added, nodup, fresh, all⟩ := foldl_add (into v) { g with stack }
  have here : v ∈ g.members := h.stack v (by rw [top]; exact List.mem_cons_self)
  refine ⟨new, added, ⟨?_, ?_, ?_, ?_, ?_, ?_⟩, fun u mem => (fresh u mem).1⟩
  · rw [List.append_assoc, h.assigned]
  · refine List.nodup_append.mpr ⟨nodup, h.nodup, ?_⟩
    rintro u mem w hw rfl
    exact (fresh u mem).2 hw
  · exact List.mem_append_right _ h.holds
  · intro u mem
    rcases List.mem_append.mp mem with mem | mem
    · exact List.mem_append_left _ mem
    · exact List.mem_append_right _ (h.stack u (by rw [top]; exact List.mem_cons_of_mem _ mem))
  · intro u mem
    rcases List.mem_append.mp mem with mem | mem
    · exact .head (edges u v (fresh u mem).1) (h.reach v here)
    · exact h.reach u mem
  · intro u mem out w hw
    rcases List.mem_append.mp mem with mem | mem
    · exact absurd (List.mem_append_left _ mem) out
    · by_cases same : u = v
      · subst same
        exact all w hw
      · refine List.mem_append_right _ (h.closed u mem ?_ w hw)
        rw [top]
        rintro (_ | ⟨_, old⟩)
        · exact same rfl
        · exact out (List.mem_append_right _ old)

/-- Nodes below `n` without repetition are no more than `n`. -/
theorem length_le_of_nodup {items : List Nat} (nodup : items.Nodup) (bound : ∀ v ∈ items, v < n) :
    items.length ≤ n := by
  have sub : items ⊆ List.range n := fun v mem => List.mem_range.mpr (bound v mem)
  simpa using (nodup.subperm sub).length_le

/-- Each turn takes a node from the stack, and puts on it only what was in no component. -/
theorem gather_done (edges : ∀ u v, u ∈ into v → edge u v) (range : ∀ v, ∀ u ∈ into v, u < n)
    {fuel : Nat} {g : Gathering} (h : Gathers edge into before root g)
    (bound : ∀ v ∈ g.assigned, v < n) (enough : g.stack.length + (n - g.assigned.length) ≤ fuel) :
    Gathers edge into before root (gather into fuel g) ∧ (gather into fuel g).stack = [] ∧
      ∀ v ∈ (gather into fuel g).assigned, v < n := by
  induction fuel generalizing g with
  | zero =>
    have empty : g.stack.length = 0 := by omega
    exact ⟨h, List.length_eq_zero_iff.mp empty, bound⟩
  | succ fuel ih =>
    rw [gather]
    cases top : g.stack with
    | nil => exact ⟨h, top, bound⟩
    | cons v stack =>
      obtain ⟨new, added, next, lead⟩ := h.turn edges top
      simp only [added]
      have bound' : ∀ u ∈ new ++ g.assigned, u < n := by
        intro u mem
        rcases List.mem_append.mp mem with mem | mem
        · exact range v u (lead u mem)
        · exact bound u mem
      have room := length_le_of_nodup next.nodup bound'
      refine ih next bound' ?_
      simp only [top, List.length_cons, List.length_append] at enough room ⊢
      omega

end

/-! ## All components -/

def Joined (edges : List (Nat × Nat)) (u v : Nat) : Prop := (u, v) ∈ edges

theorem Neighbours.leads {edges : List (Nat × Nat)} {out into : Nat → List Nat}
    (h : Neighbours edges out into) : Leads out = Joined edges := by
  funext u v
  exact propext h.mem_out

/-- What holds after some roots: they are in components, and each component is a class of nodes that
are reachable from each other. -/
structure Parted (edges : List (Nat × Nat)) (n : Nat) (roots : List Nat) (p : Partition) : Prop where
  perm : p.assigned.Perm p.components.flatten
  nodup : p.assigned.Nodup
  bound : ∀ v ∈ p.assigned, v < n
  taken : ∀ v ∈ roots, v ∈ p.assigned
  nonempty : ∀ c ∈ p.components, c ≠ []
  classes : ∀ c ∈ p.components, ∀ u ∈ c, ∀ v, v ∈ c ↔ Mutual (Joined edges) u v

section

variable {edges : List (Nat × Nat)} {out into : Nat → List Nat} {n : Nat} {roots rest : List Nat}
variable {p : Partition} {u v root : Nat}

/-- Before the first root there are no components. -/
theorem Parted.start (edges : List (Nat × Nat)) (n : Nat) : Parted edges n [] ⟨[], []⟩ :=
  ⟨.refl _, by simp, by simp, by simp, by simp, by simp⟩

/-- With a node, all that are mutual to it are in components. -/
theorem Parted.mutual (h : Parted edges n roots p) (mem : u ∈ p.assigned)
    (both : Mutual (Joined edges) u v) : v ∈ p.assigned := by
  obtain ⟨c, hc, hu⟩ := List.mem_flatten.mp (h.perm.mem_iff.mp mem)
  exact h.perm.mem_iff.mpr (List.mem_flatten.mpr ⟨c, hc, (h.classes c hc u hu v).mpr both⟩)

/-- What is gathered from a root is its class: nothing else leads to it that is in no component yet. -/
theorem gathered_class (lists : Neighbours edges out into)
    (range : ∀ e ∈ edges, e.1 < n ∧ e.2 < n) (h : Parted edges n roots p)
    (order : departures out n (edges.length + n) = roots ++ root :: rest) (new : root ∉ p.assigned)
    {g : Gathering} (gathers : Gathers (Joined edges) into p.assigned root g) (done : g.stack = [])
    (bound : ∀ v ∈ g.assigned, v < n) :
    v ∈ g.members ↔ Mutual (Joined edges) root v := by
  obtain ⟨nodup, all, settled⟩ := departures_settled lists range
  constructor
  · intro mem
    have path := gathers.reach v mem
    have here : v ∈ departures out n (edges.length + n) := by
      rw [all, gathers.assigned] at *
      exact bound v (List.mem_append_left _ mem)
    rw [← lists.leads] at path ⊢
    rcases reach_earlier nodup settled
        (fun u _ w edge => (all w).mpr (range _ (lists.mem_out.mp edge)).2)
      order here path with both | ⟨f, taken, both⟩
    · exact both.symm
    · rw [lists.leads] at both
      exact absurd (h.mutual (h.taken f taken) both.symm) (gathers.fresh mem)
  · rintro ⟨forth, back⟩
    induction back using Relation.ReflTransGen.head_induction_on with
    | refl => exact gathers.holds
    | @head x y edge back ih =>
      have mem : y ∈ g.members := ih (forth.tail edge)
      have assigned := gathers.closed y mem (by simp [done]) x (lists.mem_into.mpr edge)
      rw [gathers.assigned] at assigned
      rcases List.mem_append.mp assigned with mem | old
      · exact mem
      · exact absurd (h.mutual old ⟨.head edge back, forth⟩) new

/-- What the first pass leaves are nodes. -/
theorem root_lt (lists : Neighbours edges out into) (range : ∀ e ∈ edges, e.1 < n ∧ e.2 < n)
    (order : departures out n (edges.length + n) = roots ++ root :: rest) : root < n := by
  rw [← (departures_settled lists range).2.1, order]
  exact List.mem_append_right _ List.mem_cons_self

/-- A root is in a component already, or its component is gathered to the end. -/
theorem extend_cases (lists : Neighbours edges out into)
    (range : ∀ e ∈ edges, e.1 < n ∧ e.2 < n) (nodup : p.assigned.Nodup)
    (bound : ∀ v ∈ p.assigned, v < n) (inside : root < n) :
    (root ∈ p.assigned ∧ p.extend into n root = p) ∨
    (root ∉ p.assigned ∧ ∃ g, Gathers (Joined edges) into p.assigned root g ∧ g.stack = [] ∧
      (∀ v ∈ g.assigned, v < n) ∧
      p.extend into n root = ⟨g.assigned, g.members.reverse :: p.components⟩) := by
  unfold Partition.extend
  split
  · rename_i old
    exact Or.inl ⟨old, rfl⟩
  · rename_i new
    have bound' : ∀ v ∈ root :: p.assigned, v < n := by
      intro v mem
      rcases List.mem_cons.mp mem with rfl | mem
      · exact inside
      · exact bound v mem
    have start : Gathers (Joined edges) into p.assigned root
        ⟨root :: p.assigned, [root], [root]⟩ := .start nodup new
    have room := length_le_of_nodup start.nodup bound'
    have enough : [root].length + (n - (root :: p.assigned).length) ≤ n := by
      simp only [List.length_cons, List.length_nil] at room ⊢
      omega
    obtain ⟨gathers, done, below⟩ := gather_done (fun u v => lists.mem_into.mp)
      (fun v u edge => (range _ (lists.mem_into.mp edge)).1) start bound' enough
    exact Or.inr ⟨new, _, gathers, done, below, rfl⟩

/-- One more root keeps the components true. -/
theorem Parted.extend (lists : Neighbours edges out into)
    (range : ∀ e ∈ edges, e.1 < n ∧ e.2 < n) (h : Parted edges n roots p)
    (order : departures out n (edges.length + n) = roots ++ root :: rest) :
    Parted edges n (roots ++ [root]) (p.extend into n root) := by
  rcases extend_cases lists range h.nodup h.bound (root_lt lists range order) with
    ⟨old, same⟩ | ⟨new, g, gathers, done, bound, gathered⟩
  · rw [same]
    refine { h with taken := ?_ }
    intro v mem
    rcases List.mem_append.mp mem with mem | mem
    · exact h.taken v mem
    · obtain rfl : v = root := by simpa using mem
      exact old
  · have assigned := gathers.assigned
    rw [gathered]
    refine ⟨?_, gathers.nodup, bound, ?_, ?_, ?_⟩
    · rw [assigned, List.flatten_cons]
      exact (List.reverse_perm _).symm.append h.perm
    · intro v mem
      rw [assigned]
      rcases List.mem_append.mp mem with mem | mem
      · exact List.mem_append_right _ (h.taken v mem)
      · obtain rfl : v = root := by simpa using mem
        exact List.mem_append_left _ gathers.holds
    · intro c mem
      rcases List.mem_cons.mp mem with rfl | mem
      · simpa using List.ne_nil_of_mem gathers.holds
      · exact h.nonempty c mem
    · intro c mem u hu v
      rcases List.mem_cons.mp mem with rfl | mem
      · rw [List.mem_reverse, gathered_class lists range h order new gathers done bound] at *
        exact ⟨hu.symm.trans, hu.trans⟩
      · exact h.classes c mem u hu v

theorem parted_foldl (lists : Neighbours edges out into)
    (range : ∀ e ∈ edges, e.1 < n ∧ e.2 < n) (h : Parted edges n roots p)
    (order : departures out n (edges.length + n) = roots ++ rest) :
    Parted edges n (departures out n (edges.length + n)) (rest.foldl (Partition.extend into n) p) := by
  induction rest generalizing roots p with
  | nil =>
    rw [order, List.append_nil]
    exact h
  | cons root rest ih =>
    exact ih (h.extend lists range order) (by rw [order, List.append_assoc]; rfl)

/-- In whatever order neighbours are visited, every node below `n` is in one component, and a component
is the class of each of its nodes. -/
theorem componentsBy_classes (lists : Neighbours edges out into)
    (range : ∀ e ∈ edges, e.1 < n ∧ e.2 < n) :
    (componentsBy out into n edges.length).flatten.Perm (List.range n) ∧
    (∀ c ∈ componentsBy out into n edges.length, c ≠ []) ∧
    ∀ c ∈ componentsBy out into n edges.length, ∀ u ∈ c, ∀ v,
      v ∈ c ↔ Mutual (Joined edges) u v := by
  obtain ⟨-, all, -⟩ := departures_settled lists range
  have h := parted_foldl lists range (.start edges n) rfl
  unfold componentsBy
  refine ⟨?_, fun c mem => h.nonempty c (List.mem_reverse.mp mem),
    fun c mem => h.classes c (List.mem_reverse.mp mem)⟩
  refine ((List.reverse_perm _).flatten.trans h.perm.symm).trans ?_
  rw [List.perm_ext_iff_of_nodup h.nodup List.nodup_range]
  intro v
  rw [List.mem_range, ← all v]
  constructor
  · exact fun mem => (all v).mpr (h.bound v mem)
  · exact h.taken v

theorem components_classes (range : ∀ e ∈ edges, e.1 < n ∧ e.2 < n) :
    (components n edges).flatten.Perm (List.range n) ∧ (∀ c ∈ components n edges, c ≠ []) ∧
    ∀ c ∈ components n edges, ∀ u ∈ c, ∀ v, v ∈ c ↔ Mutual (Joined edges) u v :=
  componentsBy_classes (neighbours_newest edges) range

/-- The lists are the strongly connected components: together they hold each node below `n` once, none
is empty, and two nodes share a list just when each is reachable from the other. -/
structure AreComponents (edges : List (Nat × Nat)) (n : Nat) (found : List (List Nat)) : Prop where
  perm : found.flatten.Perm (List.range n)
  nonempty : ∀ c ∈ found, c ≠ []
  together : ∀ u < n, ∀ v < n, (∃ c ∈ found, u ∈ c ∧ v ∈ c) ↔ Mutual (Joined edges) u v

theorem areComponents_componentsBy (lists : Neighbours edges out into)
    (range : ∀ e ∈ edges, e.1 < n ∧ e.2 < n) :
    AreComponents edges n (componentsBy out into n edges.length) := by
  obtain ⟨perm, nonempty, classes⟩ := componentsBy_classes lists range
  refine ⟨perm, nonempty, fun u hu v _ => ⟨?_, fun both => ?_⟩⟩
  · rintro ⟨c, mem, here, there⟩
    exact (classes c mem u here v).mp there
  · have listed : u ∈ (componentsBy out into n edges.length).flatten :=
      perm.mem_iff.mpr (List.mem_range.mpr hu)
    obtain ⟨c, mem, here⟩ := List.mem_flatten.mp listed
    exact ⟨c, mem, here, (classes c mem u here v).mpr both⟩

/-- Whatever the edges between the nodes below `n`, with loops and parallel edges, and in whatever order
the neighbours of a node are visited, the two passes give the strongly connected components. -/
theorem components_exact {n : Nat} {edges : List (Nat × Nat)}
    (range : ∀ e ∈ edges, e.1 < n ∧ e.2 < n) :
    (∀ out into, Neighbours edges out into →
      AreComponents edges n (componentsBy out into n edges.length)) ∧
    ∃ found, components? n edges = some found ∧ AreComponents edges n found := by
  refine ⟨fun out into lists => areComponents_componentsBy lists range, components n edges, ?_, ?_⟩
  · rw [components?, if_pos]
    simpa using range
  · exact areComponents_componentsBy (neighbours_newest edges) range

/-- Three nodes joined both ways, two more with parallel edges to them and a loop, and a node apart. -/
def interlocked : List (Nat × Nat) :=
  [(0, 1), (1, 0), (1, 2), (2, 1), (0, 2), (2, 0), (2, 3), (2, 3), (3, 3), (3, 4), (4, 3)]

/-- With the oldest edge first, the same components are found with their nodes in another order. -/
theorem components_exact_interlocked :
    let targets := fun v => (interlocked.filter fun e => e.1 = v).map Prod.snd
    let sources := fun v => (interlocked.filter fun e => e.2 = v).map Prod.fst
    (∀ e ∈ interlocked, e.1 < 6 ∧ e.2 < 6) ∧ Neighbours interlocked targets sources ∧
    componentsBy targets sources 6 interlocked.length = [[5], [0, 1, 2], [3, 4]] ∧
    AreComponents interlocked 6 [[5], [0, 1, 2], [3, 4]] ∧
    components? 6 interlocked = some [[5], [0, 2, 1], [3, 4]] ∧
    AreComponents interlocked 6 [[5], [0, 2, 1], [3, 4]] := by
  intro targets sources
  have range : ∀ e ∈ interlocked, e.1 < 6 ∧ e.2 < 6 := by decide
  have oldest : Neighbours interlocked targets sources := ⟨fun _ => .refl _, fun _ => .refl _⟩
  have first : componentsBy targets sources 6 interlocked.length = [[5], [0, 1, 2], [3, 4]] := by
    decide
  have second : components? 6 interlocked = some [[5], [0, 2, 1], [3, 4]] := by decide
  obtain ⟨any, found, newest, parted⟩ := components_exact range
  obtain rfl : found = [[5], [0, 2, 1], [3, 4]] := Option.some.inj (newest.symm.trans second)
  exact ⟨range, oldest, first, first ▸ any targets sources oldest, second, parted⟩

/-! ## How many components there are -/

/-- Nodes that lie pairwise apart are no more than the components. -/
theorem length_le_components (range : ∀ e ∈ edges, e.1 < n ∧ e.2 < n) {items : List Nat}
    (bound : ∀ v ∈ items, v < n)
    (apart : items.Pairwise fun u v => ¬ Mutual (Joined edges) u v) :
    items.length ≤ (components n edges).length := by
  obtain ⟨perm, -, classes⟩ := components_classes range
  let place (v : Nat) : Nat := (components n edges).findIdx fun c => decide (v ∈ c)
  have holds : ∀ v ∈ items, ∃ c, (components n edges)[place v]? = some c ∧ v ∈ c := by
    intro v mem
    obtain ⟨c, hc, hv⟩ := List.mem_flatten.mp (perm.mem_iff.mpr (List.mem_range.mpr (bound v mem)))
    have lt : place v < (components n edges).length :=
      List.findIdx_lt_length_of_exists ⟨c, hc, by simpa using hv⟩
    exact ⟨_, List.getElem?_eq_getElem lt, by simpa using List.findIdx_getElem (w := lt)⟩
  have nodup : (items.map place).Nodup := by
    rw [List.Nodup, List.pairwise_map]
    apply apart.imp_of_mem
    intro u v hu hv apart same
    obtain ⟨c, here, mem⟩ := holds u hu
    obtain ⟨c', here', mem'⟩ := holds v hv
    obtain rfl : c = c' := by simpa [← same, here] using here'
    exact apart ((classes c (List.mem_of_getElem? here) u mem v).mp mem')
  have inside : ∀ i ∈ items.map place, i < (components n edges).length := by
    intro i mem
    obtain ⟨v, hv, rfl⟩ := List.mem_map.mp mem
    obtain ⟨c, here, -⟩ := holds v hv
    exact (List.getElem?_eq_some_iff.mp here).1
  simpa using length_le_of_nodup nodup inside

/-- One node of each component: as many nodes as components lie pairwise apart. -/
theorem exists_representatives (range : ∀ e ∈ edges, e.1 < n ∧ e.2 < n) :
    ∃ items : List Nat, items.length = (components n edges).length ∧ (∀ v ∈ items, v < n) ∧
      items.Pairwise fun u v => ¬ Mutual (Joined edges) u v := by
  obtain ⟨perm, nonempty, classes⟩ := components_classes range
  have head : ∀ c ∈ components n edges, c.headD 0 ∈ c := by
    intro c hc
    obtain ⟨v, rest, rfl⟩ := List.exists_cons_of_ne_nil (nonempty c hc)
    exact List.mem_cons_self
  refine ⟨(components n edges).map (List.headD · 0), by simp, ?_, ?_⟩
  · intro v mem
    obtain ⟨c, hc, rfl⟩ := List.mem_map.mp mem
    exact List.mem_range.mp (perm.mem_iff.mp (List.mem_flatten.mpr ⟨c, hc, head c hc⟩))
  · have disjoint := (List.nodup_flatten.mp (perm.nodup_iff.mpr List.nodup_range)).2
    rw [List.pairwise_map]
    apply disjoint.imp_of_mem
    intro c c' hc hc' disjoint both
    have shared := (classes c hc _ (head c hc) _).mpr both
    exact disjoint shared (head c' hc')

end

end ArchAtlas.Graph
