import ArchAtlas.Graph.Cycles
import ArchAtlas.Proofs.Graph.Departures
import Mathlib.Data.List.GetD

/-!
The search for cycles takes the turns of the first pass, so that what is on its stack, seen and left is
that of `Departing`. Beside it stands what the search reports.

* `Reported`: an edge back to the path, by the first and the last node of the cycle that it closes;
* `Searching` is what holds at each turn, `run_done` that the turns allowed are enough;
* `cycles_simple`: what is found are cycles, and without repeated edges none is found twice;
* `exists_cycle_of_round`: wherever a node leads back to itself, a cycle of its component is found;
* `reported_cycles_simple`: so the reports are cycles, and none is missing for a whole component.
-/

namespace ArchAtlas.Graph

/-! ## Edges of an adjacency list -/

section

variable {adjacency : Adjacency} {i j : Nat}

theorem lt_of_leads (h : Leads adjacency.successors i j) : i < adjacency.length := by
  by_contra out
  rw [Leads, Adjacency.successors, List.getD_eq_default _ _ (Nat.le_of_not_lt out)] at h
  cases h

theorem inRange_iff : adjacency.inRange = true ↔
    ∀ i, ∀ j ∈ adjacency.successors i, j < adjacency.length := by
  simp only [Adjacency.inRange, List.all_eq_true, decide_eq_true_eq]
  constructor
  · intro all i j edge
    have bound := lt_of_leads edge
    rw [Adjacency.successors, List.getD_eq_getElem _ _ bound] at edge
    exact all _ (List.getElem_mem bound) j edge
  · intro range successors mem j hj
    obtain ⟨i, here⟩ := List.getElem?_of_mem mem
    apply range i
    rwa [Adjacency.successors, List.getD_eq_getElem?_getD, here, Option.getD_some]

end

/-! ## Places on the path -/

/-- The nodes of a path, the last first, with their places counted from the root. -/
def placed : List Nat → List (Nat × Nat)
  | [] => []
  | v :: rest => (v, rest.length) :: placed rest

section

variable {v w place : Nat} {path rest : List Nat}

theorem mem_placed {p : Nat × Nat} (h : p ∈ placed path) : p.1 ∈ path := by
  induction path with
  | nil => cases h
  | cons v rest ih =>
    rcases List.mem_cons.mp h with rfl | h
    · exact List.mem_cons_self
    · exact List.mem_cons_of_mem _ (ih h)

/-- A node that is not further down the path is taken off it with its place. -/
theorem filter_placed (new : v ∉ rest) :
    (placed (v :: rest)).filter (fun p => p.1 ≠ v) = placed rest := by
  rw [placed, List.filter_cons_of_neg (by simp), List.filter_eq_self]
  intro p mem
  have here := mem_placed mem
  simp only [ne_eq, decide_not, Bool.not_eq_eq_eq_not, Bool.not_true, decide_eq_false_iff_not]
  rintro rfl
  exact new here

theorem lookup_placed (h : (placed path).lookup w = some place) :
    ∃ above below, path = above ++ w :: below ∧ below.length = place := by
  induction path with
  | nil => cases h
  | cons v rest ih =>
    by_cases same : w = v
    · subst same
      obtain rfl : rest.length = place := by simpa [placed] using h
      exact ⟨[], rest, rfl, rfl⟩
    · rw [placed, List.lookup_cons, beq_false_of_ne same] at h
      obtain ⟨above, below, rfl, rfl⟩ := ih h
      exact ⟨v :: above, below, rfl, rfl⟩

theorem lookup_placed_none (h : (placed path).lookup w = none) : w ∉ path := by
  induction path with
  | nil => simp
  | cons v rest ih =>
    by_cases same : w = v
    · subst same
      simp [placed] at h
    · rw [placed, List.lookup_cons, beq_false_of_ne same] at h
      simpa [same] using ih h

end

/-! ## The invariant -/

/-- The edge from `u` back to `w` has been reported, with the path from `w` to `u`. -/
def Reported (found : List (List Nat)) (u w : Nat) : Prop :=
  ∃ c ∈ found, c.head? = some w ∧ c.getLast? = some u

/-- A node of the work stack with the successors that are still ahead of it. -/
def ahead (adjacency : Adjacency) (f : Nat × Nat) : Nat × List Nat :=
  (f.1, (adjacency.successors f.1).drop f.2)

/-- Where a successor has been looked at from a node of the work stack, it has been left or reported, or
it is above that node. -/
def Looked (adjacency : Adjacency) (left : List Nat) (found : List (List Nat)) :
    (above : List Nat) → (work : List (Nat × Nat)) → Prop
  | _, [] => True
  | above, (v, next) :: below =>
    (∀ w ∈ (adjacency.successors v).take next, w ∈ left ∨ w ∈ above ∨ Reported found v w) ∧
    Looked adjacency left found (v :: above) below

/-- Nodes left, the last first: each successor of a node was left before it, or reported. -/
def Answered (adjacency : Adjacency) (left : List Nat) (found : List (List Nat)) : Prop :=
  ∀ later u earlier, left = later ++ u :: earlier →
    ∀ w ∈ adjacency.successors u, w ∈ earlier ∨ Reported found u w

/-- What holds at each turn of the search, where the nodes in `left` are no longer on the path. -/
structure Searching (adjacency : Adjacency) (s : Search) (left : List Nat) : Prop where
  departing : Departing adjacency.successors adjacency.length (s.work.map (ahead adjacency))
    ⟨s.visited, left⟩
  path : s.work.map Prod.fst = s.path
  position : s.position = placed s.path
  chain : s.path.IsChain fun above below => Leads adjacency.successors below above
  looked : Looked adjacency left s.found [] s.work
  answered : Answered adjacency left s.found
  cycles : ∀ c ∈ s.found, IsCycle (Leads adjacency.successors) c
  examined : ∀ u w, Reported s.found u w →
    u ∈ left ∨ ∃ next, (u, next) ∈ s.work ∧ w ∈ (adjacency.successors u).take next
  distinct : (∀ u, (adjacency.successors u).Nodup) → s.found.Nodup

theorem Reported.mono {found found' : List (List Nat)} {u w : Nat} (h : Reported found u w)
    (sub : ∀ c ∈ found, c ∈ found') : Reported found' u w := by
  obtain ⟨c, mem, ends⟩ := h
  exact ⟨c, sub c mem, ends⟩

section

variable {adjacency : Adjacency} {left left' : List Nat} {found found' : List (List Nat)}
variable {v w next : Nat} {below : List (Nat × Nat)}

/-- More reports, and nodes above that are left, keep what has been looked at. -/
theorem Looked.mono {above above' : List Nat} (h : Looked adjacency left found above below)
    (nodes : ∀ x, x ∈ left ∨ x ∈ above → x ∈ left' ∨ x ∈ above')
    (sub : ∀ c ∈ found, c ∈ found') : Looked adjacency left' found' above' below := by
  induction below generalizing above above' with
  | nil => trivial
  | cons f below ih =>
    refine ⟨fun w mem => ?_, ih h.2 fun x hx => ?_⟩
    · have old := h.1 w mem
      rw [← or_assoc] at old ⊢
      exact old.imp (nodes w) (·.mono sub)
    · have old := nodes x
      simp only [List.mem_cons] at hx ⊢
      tauto

theorem Looked.leave (h : Looked adjacency left found [] ((v, next) :: below)) :
    Looked adjacency (v :: left) found [] below := by
  refine h.2.mono (fun x hx => Or.inl ?_) fun c mem => mem
  rcases hx with hx | hx
  · exact List.mem_cons_of_mem _ hx
  · obtain rfl : x = v := by simpa using hx
    exact List.mem_cons_self

/-- One more successor is looked at from the last node. -/
theorem Looked.advance {above : List Nat} (h : Looked adjacency left found [] ((v, next) :: below))
    (nextIs : (adjacency.successors v)[next]? = some w) (sub : ∀ c ∈ found, c ∈ found')
    (answer : w ∈ left ∨ w ∈ above ∨ Reported found' v w) :
    Looked adjacency left found' above ((v, next + 1) :: below) := by
  refine ⟨fun x mem => ?_, h.2.mono (fun x hx => ?_) sub⟩
  · rw [List.take_add_one, nextIs, List.mem_append] at mem
    rcases mem with mem | mem
    · rcases h.1 x mem with old | old | old
      · exact Or.inl old
      · cases old
      · exact Or.inr (Or.inr (old.mono sub))
    · obtain rfl : x = w := by simpa using mem
      exact answer
  · rcases hx with hx | hx
    · exact Or.inl hx
    · obtain rfl : x = v := by simpa using hx
      exact Or.inr List.mem_cons_self

/-- A node is entered with none of its successors looked at. -/
theorem Looked.enter (h : Looked adjacency left found [w] below) :
    Looked adjacency left found [] ((w, 0) :: below) :=
  ⟨by simp, h⟩

theorem Answered.mono (h : Answered adjacency left found) (sub : ∀ c ∈ found, c ∈ found') :
    Answered adjacency left found' := by
  intro later u earlier split x mem
  exact (h later u earlier split x mem).imp_right (·.mono sub)

/-- A node that is left has looked at all its successors, with nothing above it. -/
theorem Answered.leave (h : Answered adjacency left found)
    (looked : Looked adjacency left found [] ((v, next) :: below))
    (last : (adjacency.successors v)[next]? = none) : Answered adjacency (v :: left) found := by
  intro later u earlier split x mem
  cases later with
  | cons y later =>
    simp only [List.cons_append, List.cons.injEq] at split
    exact h later u earlier split.2 x mem
  | nil =>
    obtain ⟨rfl, rfl⟩ : v = u ∧ left = earlier := by simpa using split
    rw [← List.take_of_length_le (List.getElem?_eq_none_iff.mp last)] at mem
    rcases looked.1 x mem with old | old | old
    · exact Or.inl old
    · cases old
    · exact Or.inr old

end

/-! ## One turn -/

section

variable {adjacency : Adjacency} {s : Search} {left : List Nat} {found : List (List Nat)}
variable {v w next start : Nat} {below : List (Nat × Nat)}

theorem ahead_last (last : (adjacency.successors v)[next]? = none) :
    ahead adjacency (v, next) = (v, []) := by
  rw [ahead, List.drop_eq_nil_of_le (List.getElem?_eq_none_iff.mp last)]

theorem ahead_next (nextIs : (adjacency.successors v)[next]? = some w) :
    ahead adjacency (v, next) = (v, w :: (adjacency.successors v).drop (next + 1)) := by
  obtain ⟨bound, rfl⟩ := List.getElem?_eq_some_iff.mp nextIs
  rw [ahead, List.drop_eq_getElem_cons bound]

theorem map_fst_ahead (work : List (Nat × Nat)) :
    (work.map (ahead adjacency)).map Prod.fst = work.map Prod.fst := by
  rw [List.map_map]
  rfl

/-- The path and the nodes left have no node in common, and none of them occurs twice. -/
theorem Searching.nodup (h : Searching adjacency s left) : (s.path ++ left).Nodup := by
  have := h.departing.nodup
  rwa [map_fst_ahead, h.path] at this

theorem Searching.visited_iff (h : Searching adjacency s left) (u : Nat) :
    u ∈ s.visited ↔ u ∈ s.path ∨ u ∈ left := by
  have := h.departing.seen_iff u
  rwa [map_fst_ahead, h.path] at this

theorem Searching.initial (adjacency : Adjacency) : Searching adjacency .initial [] where
  departing := Departing.empty _ _
  path := rfl
  position := rfl
  chain := .nil
  looked := trivial
  answered := by intro later u earlier split; simp at split
  cycles := by simp [Search.initial]
  examined := by simp [Search.initial, Reported]
  distinct := by simp [Search.initial]

/-- A root that has not been visited is entered on an empty path. -/
theorem Searching.root (h : Searching adjacency s left) (idle : s.work = [])
    (bound : v < adjacency.length) (new : v ∉ s.visited) : Searching adjacency (s.enter v) left := by
  have bare : s.path = [] := by rw [← h.path, idle, List.map_nil]
  have departing := h.departing
  rw [idle, List.map_nil] at departing
  refine ⟨?_, ?_, ?_, ?_, ?_, h.answered, h.cycles, ?_, h.distinct⟩
  · simpa [Search.enter, idle, ahead] using departing.root bound new
  · simp [Search.enter, idle, bare]
  · simp [Search.enter, h.position, placed]
  · simp [Search.enter, bare]
  · simp [Search.enter, idle, Looked]
  · intro u x reported
    have old := h.examined u x reported
    simp only [idle, List.not_mem_nil, false_and, exists_const, or_false] at old
    exact Or.inl old

/-- The invariant, at the last node of the work stack. -/
theorem Searching.atTop (h : Searching adjacency s left) (top : s.work = (v, next) :: below) :
    Departing adjacency.successors adjacency.length
      (ahead adjacency (v, next) :: below.map (ahead adjacency)) ⟨s.visited, left⟩ ∧
    Looked adjacency left s.found [] ((v, next) :: below) ∧ v :: below.map Prod.fst = s.path := by
  have departing := h.departing
  have looked := h.looked
  have path := h.path
  rw [top] at departing looked path
  exact ⟨departing, looked, path⟩

/-- The last node is left once all its successors have been looked at. -/
theorem Searching.leave (h : Searching adjacency s left) (top : s.work = (v, next) :: below)
    (last : (adjacency.successors v)[next]? = none) :
    Searching adjacency
      { s with
        work := below
        path := s.path.tail
        position := s.position.filter fun p => p.1 ≠ v } (v :: left) := by
  obtain ⟨departing, looked, path⟩ := h.atTop top
  rw [ahead_last last] at departing
  have fresh : v ∉ below.map Prod.fst := by
    have := h.nodup
    rw [← path] at this
    exact (List.nodup_cons.mp (List.nodup_append.mp this).1).1
  refine ⟨departing.leave, ?_, ?_, ?_, looked.leave, h.answered.leave looked last, h.cycles, ?_,
    h.distinct⟩
  · rw [← path, List.tail_cons]
  · rw [h.position, ← path, List.tail_cons]
    exact filter_placed fresh
  · exact h.chain.tail
  · intro u x reported
    rcases h.examined u x reported with old | ⟨k, mem, taken⟩
    · exact Or.inl (List.mem_cons_of_mem _ old)
    · rw [top] at mem
      rcases List.mem_cons.mp mem with same | mem
      · obtain rfl : u = v := congrArg Prod.fst same
        exact Or.inl List.mem_cons_self
      · exact Or.inr ⟨k, mem, taken⟩

/-- What has been examined stays so when the last node goes on to its next successor. -/
theorem Searching.examined_advance (h : Searching adjacency s left)
    (top : s.work = (v, next) :: below) (u x : Nat) (reported : Reported s.found u x) :
    u ∈ left ∨ ∃ k, (u, k) ∈ (v, next + 1) :: below ∧ x ∈ (adjacency.successors u).take k := by
  rcases h.examined u x reported with old | ⟨k, mem, taken⟩
  · exact Or.inl old
  · rw [top] at mem
    rcases List.mem_cons.mp mem with same | mem
    · obtain ⟨rfl, rfl⟩ : u = v ∧ k = next := by simpa using same
      refine Or.inr ⟨k + 1, List.mem_cons_self, ?_⟩
      rw [List.take_add_one]
      exact List.mem_append_left _ taken
    · exact Or.inr ⟨k, List.mem_cons_of_mem _ mem, taken⟩

/-- A successor that has been left is passed over. -/
theorem Searching.pass (h : Searching adjacency s left) (top : s.work = (v, next) :: below)
    (nextIs : (adjacency.successors v)[next]? = some w) (seen : w ∈ s.visited)
    (off : s.place? w = none) :
    Searching adjacency { s with work := (v, next + 1) :: below } left := by
  obtain ⟨departing, looked, path⟩ := h.atTop top
  rw [ahead_next nextIs] at departing
  have gone : w ∈ left := by
    rw [Search.place?, h.position] at off
    exact ((h.visited_iff w).mp seen).resolve_left (lookup_placed_none off)
  exact ⟨departing.pass seen, path, h.position, h.chain,
    looked.advance nextIs (fun c mem => mem) (Or.inl gone), h.answered, h.cycles,
    h.examined_advance top, h.distinct⟩

/-- A successor that has not been visited is entered. -/
theorem Searching.enter (h : Searching adjacency s left)
    (range : ∀ u, ∀ x ∈ adjacency.successors u, x < adjacency.length)
    (top : s.work = (v, next) :: below) (nextIs : (adjacency.successors v)[next]? = some w)
    (new : w ∉ s.visited) :
    Searching adjacency (Search.enter { s with work := (v, next + 1) :: below } w) left := by
  obtain ⟨departing, looked, path⟩ := h.atTop top
  rw [ahead_next nextIs] at departing
  have edge : Leads adjacency.successors v w := List.mem_of_getElem? nextIs
  refine ⟨departing.enter range new, ?_, ?_, ?_, ?_, h.answered, h.cycles, ?_, h.distinct⟩
  · simpa [Search.enter] using path
  · simp [Search.enter, h.position, placed]
  · rw [Search.enter, ← path]
    refine List.isChain_cons_cons.mpr ⟨edge, ?_⟩
    have := h.chain
    rwa [← path] at this
  · exact (looked.advance nextIs (fun c mem => mem) (Or.inr (Or.inl List.mem_cons_self))).enter
  · intro u x reported
    rcases h.examined_advance top u x reported with old | ⟨k, mem, taken⟩
    · exact Or.inl old
    · exact Or.inr ⟨k, List.mem_cons_of_mem _ mem, taken⟩

/-- The path from a node on it to the last is a cycle where the last node has an edge back. -/
theorem Searching.pathFrom_cycle (h : Searching adjacency s left)
    (top : s.work = (v, next) :: below) (edge : Leads adjacency.successors v w)
    (on : s.place? w = some start) :
    IsCycle (Leads adjacency.successors) (s.pathFrom start) ∧
    (s.pathFrom start).head? = some w ∧ (s.pathFrom start).getLast? = some v := by
  rw [Search.place?, h.position] at on
  obtain ⟨above, under, split, rfl⟩ := lookup_placed on
  have turned : s.pathFrom under.length = (above ++ [w]).reverse := by
    rw [Search.pathFrom, split]
    simp
  have first : (s.pathFrom under.length).head? = some w := by
    rw [turned]
    simp
  have last : (s.pathFrom under.length).getLast? = some v := by
    have whole : s.path = (above ++ [w]) ++ under := by simp [split]
    have front : s.path.head? = some v := by rw [← h.path, top]; rfl
    rw [whole, List.head?_append_of_ne_nil _ (by simp)] at front
    rw [turned, List.getLast?_reverse, front]
  have part : (above ++ [w]) <:+: s.path := ⟨[], under, by simp [split]⟩
  refine ⟨⟨?_, ?_, ?_, ?_⟩, first, last⟩
  · simp [turned]
  · rw [turned, List.nodup_reverse]
    exact (List.nodup_append.mp h.nodup).1.sublist part.sublist
  · rw [turned, List.isChain_reverse]
    exact h.chain.infix part
  · intro x y hx hy
    obtain rfl : v = x := Option.some.inj (last.symm.trans hx)
    obtain rfl : w = y := Option.some.inj (first.symm.trans hy)
    exact edge

/-- Without repeated successors, an edge is not reported before it is looked at. -/
theorem Searching.unreported (h : Searching adjacency s left) (top : s.work = (v, next) :: below)
    (nextIs : (adjacency.successors v)[next]? = some w)
    (simple : (adjacency.successors v).Nodup) : ¬ Reported s.found v w := by
  intro reported
  have nodup := h.nodup
  rw [← h.path, top, List.map_cons, List.cons_append, List.nodup_cons, List.mem_append] at nodup
  rcases h.examined v w reported with old | ⟨k, mem, taken⟩
  · exact nodup.1 (Or.inr old)
  · rw [top] at mem
    rcases List.mem_cons.mp mem with same | mem
    · obtain rfl : k = next := congrArg Prod.snd same
      obtain ⟨i, bound, place⟩ := List.mem_take_iff_getElem.mp taken
      obtain ⟨inside, here⟩ := List.getElem?_eq_some_iff.mp nextIs
      have : i = k := (List.Nodup.getElem_inj_iff simple).mp (place.trans here.symm)
      omega
    · exact nodup.1 (Or.inl (List.mem_map.mpr ⟨(v, k), mem, rfl⟩))

/-- A successor on the path closes a cycle. -/
theorem Searching.report (h : Searching adjacency s left) (top : s.work = (v, next) :: below)
    (nextIs : (adjacency.successors v)[next]? = some w) (seen : w ∈ s.visited)
    (on : s.place? w = some start) :
    Searching adjacency
      { s with
        work := (v, next + 1) :: below
        found := s.pathFrom start :: s.found } left := by
  obtain ⟨departing, looked, path⟩ := h.atTop top
  rw [ahead_next nextIs] at departing
  obtain ⟨cycle, first, last⟩ := h.pathFrom_cycle top (List.mem_of_getElem? nextIs) on
  have more : ∀ c ∈ s.found, c ∈ s.pathFrom start :: s.found :=
    fun c mem => List.mem_cons_of_mem _ mem
  have answer : Reported (s.pathFrom start :: s.found) v w := ⟨_, List.mem_cons_self, first, last⟩
  refine ⟨departing.pass seen, path, h.position, h.chain,
    looked.advance nextIs more (Or.inr (Or.inr answer)), h.answered.mono more, ?_, ?_, ?_⟩
  · intro c mem
    rcases List.mem_cons.mp mem with rfl | mem
    · exact cycle
    · exact h.cycles c mem
  · rintro u x ⟨c, mem, hx, hu⟩
    rcases List.mem_cons.mp mem with rfl | mem
    · obtain rfl : v = u := Option.some.inj (last.symm.trans hu)
      obtain rfl : w = x := Option.some.inj (first.symm.trans hx)
      refine Or.inr ⟨next + 1, List.mem_cons_self, ?_⟩
      rw [List.take_add_one, nextIs]
      exact List.mem_append_right _ List.mem_cons_self
    · exact h.examined_advance top u x ⟨c, mem, hx, hu⟩
  · intro simple
    refine List.nodup_cons.mpr ⟨fun mem => ?_, h.distinct simple⟩
    exact h.unreported top nextIs (simple v) ⟨_, mem, first, last⟩

end

/-! ## The whole search -/

/-- The turns that the search still has to take. -/
def turns (adjacency : Adjacency) (s : Search) : Nat :=
  stacked (s.work.map (ahead adjacency)) +
    pending adjacency.length (fun v => (adjacency.successors v).length) s.visited

section

variable {adjacency : Adjacency} {s : Search} {left : List Nat}

/-- One turn keeps the invariant and what has been visited, and there is one turn less to take. -/
theorem Searching.step (range : ∀ u, ∀ x ∈ adjacency.successors u, x < adjacency.length)
    (h : Searching adjacency s left) (busy : s.work ≠ []) :
    (∃ left', Searching adjacency (s.step adjacency) left') ∧
    (∀ u ∈ s.visited, u ∈ (s.step adjacency).visited) ∧
    turns adjacency s = turns adjacency (s.step adjacency) + 1 := by
  obtain ⟨⟨v, next⟩, below, top⟩ := List.exists_cons_of_ne_nil busy
  cases hw : (adjacency.successors v)[next]? with
  | none =>
    have stepped : s.step adjacency =
        { s with
          work := below
          path := s.path.tail
          position := s.position.filter fun p => p.1 ≠ v } := by
      simp [Search.step, top, hw]
    rw [stepped]
    refine ⟨⟨_, h.leave top hw⟩, fun u mem => mem, ?_⟩
    simp only [turns, top, List.map_cons, ahead_last hw, stacked_cons, List.length_nil]
    omega
  | some w =>
    -- Looking at a successor takes it from those ahead.
    have one : stacked (s.work.map (ahead adjacency)) =
        stacked (((v, next + 1) :: below).map (ahead adjacency)) + 1 := by
      rw [top, List.map_cons, List.map_cons, ahead_next hw, ahead, stacked_cons, stacked_cons]
      dsimp only [List.length_cons]
      omega
    by_cases seen : w ∈ s.visited
    · cases on : s.place? w with
      | some start =>
        have stepped : s.step adjacency =
            { s with
              work := (v, next + 1) :: below
              found := s.pathFrom start :: s.found } := by
          have on' : Search.place? { s with work := (v, next + 1) :: below } w = some start := on
          simp [Search.step, top, hw, seen, on', Search.pathFrom]
        rw [stepped]
        refine ⟨⟨_, h.report top hw seen on⟩, fun u mem => mem, ?_⟩
        dsimp only [turns]
        omega
      | none =>
        have stepped : s.step adjacency = { s with work := (v, next + 1) :: below } := by
          have on' : Search.place? { s with work := (v, next + 1) :: below } w = none := on
          simp [Search.step, top, hw, seen, on']
        rw [stepped]
        refine ⟨⟨_, h.pass top hw seen on⟩, fun u mem => mem, ?_⟩
        dsimp only [turns]
        omega
    · have stepped : s.step adjacency =
          Search.enter { s with work := (v, next + 1) :: below } w := by
        simp [Search.step, top, hw, seen]
      have entered := h.enter range top hw seen
      have fewer := pending_cons (fun v => (adjacency.successors v).length)
        (entered.departing.bound w List.mem_cons_self) seen
      rw [stepped]
      refine ⟨⟨_, entered⟩, fun u mem => List.mem_cons_of_mem _ mem, ?_⟩
      have whole : stacked ((Search.enter { s with work := (v, next + 1) :: below } w).work.map
          (ahead adjacency)) = (adjacency.successors w).length + 1 +
            stacked (((v, next + 1) :: below).map (ahead adjacency)) := rfl
      rw [turns, turns, whole]
      dsimp only [Search.enter]
      omega

/-- The turns allowed are enough: the search ends with an empty stack. -/
theorem run_done (range : ∀ u, ∀ x ∈ adjacency.successors u, x < adjacency.length) {fuel : Nat}
    (h : Searching adjacency s left) (enough : turns adjacency s ≤ fuel) :
    (∃ left', Searching adjacency (Search.run adjacency fuel s) left') ∧
    (∀ u ∈ s.visited, u ∈ (Search.run adjacency fuel s).visited) ∧
    (Search.run adjacency fuel s).work = [] := by
  induction fuel generalizing s left with
  | zero =>
    refine ⟨⟨left, h⟩, fun u mem => mem, ?_⟩
    cases top : s.work with
    | nil => exact top
    | cons f below =>
      rw [turns, top, List.map_cons, stacked] at enough
      omega
  | succ fuel ih =>
    rw [Search.run]
    split
    · rename_i idle
      exact ⟨⟨left, h⟩, fun u mem => mem, List.isEmpty_iff.mp idle⟩
    · rename_i busy
      obtain ⟨⟨left', stepped⟩, visited, fewer⟩ :=
        h.step range fun idle => busy (List.isEmpty_iff.mpr idle)
      obtain ⟨ends, more, idle⟩ := ih stepped (by omega)
      exact ⟨ends, fun u mem => more u (visited u mem), idle⟩

/-- There are as many entries as successors. -/
theorem sum_successors (adjacency : Adjacency) :
    ∑ v ∈ Finset.range adjacency.length, (adjacency.successors v).length = adjacency.entries := by
  induction adjacency with
  | nil => rfl
  | cons successors rest ih =>
    rw [List.length_cons, Finset.sum_range_succ']
    simpa [Adjacency.successors, Adjacency.entries, add_comm] using ih

/-- From a root there are no more turns than entries and nodes. -/
theorem turns_root_le {root : Nat} (idle : s.work = []) (bound : root < adjacency.length)
    (new : root ∉ s.visited) :
    turns adjacency (s.enter root) ≤ adjacency.entries + adjacency.length := by
  have fewer := pending_cons (fun v => (adjacency.successors v).length) bound new
  have total := pending_le adjacency.length (fun v => (adjacency.successors v).length) s.visited
  rw [sum_successors] at total
  have one : stacked ((s.enter root).work.map (ahead adjacency)) =
      (adjacency.successors root).length + 1 := by
    simp [Search.enter, idle, ahead]
  rw [turns, one]
  dsimp only [Search.enter]
  omega

theorem fromRoot_done (range : ∀ u, ∀ x ∈ adjacency.successors u, x < adjacency.length)
    {root : Nat} (h : Searching adjacency s left) (idle : s.work = [])
    (bound : root < adjacency.length) :
    (∃ left', Searching adjacency (s.fromRoot adjacency root) left') ∧
    (∀ u, u ∈ s.visited ∨ u = root → u ∈ (s.fromRoot adjacency root).visited) ∧
    (s.fromRoot adjacency root).work = [] := by
  unfold Search.fromRoot
  split
  · rename_i seen
    refine ⟨⟨left, h⟩, fun u mem => ?_, idle⟩
    rcases mem with mem | rfl
    · exact mem
    · exact seen
  · rename_i new
    obtain ⟨ends, more, done⟩ :=
      run_done range (h.root idle bound new) (turns_root_le idle bound new)
    refine ⟨ends, fun u mem => more u ?_, done⟩
    rcases mem with mem | rfl
    · exact List.mem_cons_of_mem _ mem
    · exact List.mem_cons_self

/-- After some roots, the stack is empty and all of them have been visited. -/
theorem roots_done (range : ∀ u, ∀ x ∈ adjacency.successors u, x < adjacency.length)
    {roots : List Nat} (bound : ∀ v ∈ roots, v < adjacency.length) (h : Searching adjacency s left)
    (idle : s.work = []) :
    (∃ left', Searching adjacency (roots.foldl (Search.fromRoot adjacency) s) left') ∧
    (∀ u, u ∈ s.visited ∨ u ∈ roots → u ∈ (roots.foldl (Search.fromRoot adjacency) s).visited) ∧
    (roots.foldl (Search.fromRoot adjacency) s).work = [] := by
  induction roots generalizing s left with
  | nil => exact ⟨⟨left, h⟩, by simp, idle⟩
  | cons root roots ih =>
    obtain ⟨⟨_, here⟩, visited, done⟩ := fromRoot_done range h idle (bound root List.mem_cons_self)
    obtain ⟨ends, more, idle⟩ := ih (fun v mem => bound v (List.mem_cons_of_mem _ mem)) here done
    refine ⟨ends, fun u mem => more u ?_, idle⟩
    rcases mem with mem | mem
    · exact Or.inl (visited u (Or.inl mem))
    · rcases List.mem_cons.mp mem with rfl | mem
      · exact Or.inl (visited u (Or.inr rfl))
      · exact Or.inr mem

end

/-! ## The cycles found -/

section

variable {adjacency : Adjacency}

/-- Every node is left once, and each of its successors is left before it, or reported. -/
theorem cycles_answered (range : ∀ u, ∀ x ∈ adjacency.successors u, x < adjacency.length) :
    ∃ left, (∀ v, v < adjacency.length → v ∈ left) ∧ Answered adjacency left (cycles adjacency) ∧
      (∀ c ∈ cycles adjacency, IsCycle (Leads adjacency.successors) c) ∧
      ((∀ u, (adjacency.successors u).Nodup) → (cycles adjacency).Nodup) := by
  obtain ⟨⟨left, ends⟩, visited, idle⟩ :=
    roots_done range (fun v => List.mem_range.mp) (Searching.initial adjacency) rfl
  have bare := ends.path
  rw [idle, List.map_nil] at bare
  refine ⟨left, fun v bound => ?_, ends.answered.mono fun c mem => List.mem_reverse.mpr mem,
    fun c mem => ends.cycles c (List.mem_reverse.mp mem),
    fun simple => List.nodup_reverse.mpr (ends.distinct simple)⟩
  have mem := (ends.visited_iff v).mp (visited v (Or.inr (List.mem_range.mpr bound)))
  rw [← bare] at mem
  exact mem.resolve_left List.not_mem_nil

/-- What is found are cycles, and without repeated edges none is found twice. -/
theorem cycles_simple (range : ∀ u, ∀ x ∈ adjacency.successors u, x < adjacency.length) :
    (∀ c ∈ cycles adjacency, IsCycle (Leads adjacency.successors) c) ∧
    ((∀ u, (adjacency.successors u).Nodup) → (cycles adjacency).Nodup) := by
  obtain ⟨left, -, -, simple⟩ := cycles_answered range
  exact simple

/-- Wherever a node leads back to itself, a cycle of its component is found: one that the first node of
the component to be left closes. -/
theorem exists_cycle_of_round (range : ∀ u, ∀ x ∈ adjacency.successors u, x < adjacency.length)
    {x : Nat} (round : Relation.TransGen (Leads adjacency.successors) x x) :
    ∃ c ∈ cycles adjacency, ∀ z ∈ c, Mutual (Leads adjacency.successors) x z := by
  obtain ⟨left, all, answered, cyclic, -⟩ := cycles_answered range
  have bound : x < adjacency.length := by
    obtain ⟨y, edge, -⟩ := Relation.TransGen.head'_iff.mp round
    exact lt_of_leads edge
  obtain ⟨later, u, earlier, split, here, none⟩ := exists_last
    (p := Mutual (Leads adjacency.successors) x) ⟨x, all x bound, .refl _ x⟩
  -- The way from `u` round through `x` begins with an edge that stays in the component.
  obtain ⟨w, edge, rest⟩ := Relation.TransGen.head'_iff.mp (Relation.TransGen.trans_right here.2 round)
  have back : Mutual (Leads adjacency.successors) x w := ⟨here.1.tail edge, rest⟩
  rcases answered later u earlier split w edge with before | ⟨c, mem, first, -⟩
  · exact absurd back (none w before)
  · refine ⟨c, mem, fun z hz => back.trans ?_⟩
    exact (cyclic c mem).mutual (List.mem_of_head? first) hz

/-- The search comes to an end, and all that it reports are simple cycles of the graph. Nor does it miss
a component: wherever a cycle runs, one is reported whose nodes are mutual to those of the cycle. -/
theorem reported_cycles_simple (range : adjacency.inRange = true) :
    ∃ found, cycles? adjacency = some found ∧
      (∀ c ∈ found, IsCycle (Leads adjacency.successors) c) ∧
      ∀ c, IsCycle (Leads adjacency.successors) c →
        ∃ reported ∈ found, ∀ x ∈ c, ∀ z ∈ reported, Mutual (Leads adjacency.successors) x z := by
  have bounded := inRange_iff.mp range
  refine ⟨cycles adjacency, by rw [cycles?, if_pos range], (cycles_simple bounded).1, ?_⟩
  intro c cycle
  obtain ⟨y, here⟩ := List.exists_mem_of_ne_nil c cycle.nonempty
  obtain ⟨reported, mem, inside⟩ := exists_cycle_of_round bounded (cycle.transGen here here)
  exact ⟨reported, mem, fun x hx z hz => (cycle.mutual hx here).trans (inside z hz)⟩

/-- The second search begins at node 3, with the nodes of the first behind it. -/
theorem reported_cycles_simple_twoRoots :
    let adjacency : Adjacency := [[1], [2], [1], [0, 4], [3, 4]]
    adjacency.inRange = true ∧ cycles? adjacency = some [[1, 2], [3, 4], [4]] ∧
    IsCycle (Leads adjacency.successors) [3, 4] := by
  intro adjacency
  have range : adjacency.inRange = true := by decide
  have value : cycles? adjacency = some [[1, 2], [3, 4], [4]] := by decide
  obtain ⟨found, same, cyclic, -⟩ := reported_cycles_simple range
  obtain rfl := Option.some.inj (same.symm.trans value)
  exact ⟨range, value, cyclic [3, 4] (by decide)⟩

end

end ArchAtlas.Graph
