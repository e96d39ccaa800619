import ArchAtlas.Proofs.Graph.Cycles

/-!
The loops of the search for cycles, turn by turn. Nothing is looked up out of range, every loop comes to
an end, and each entry of the adjacency list is examined once.

* `Loop` is one loop with the states at its head, and `Loops` the loops from all roots; neither counts
  turns, and a turn is taken only if what it looks up is there;
* `Aligned` is what the path, the work stack and the places have in common at the head of a loop, and
  `Rested` what holds when it ends;
* `Examined` is what has been examined so far, `Examined.step` that one turn keeps it, and
  `Loop.examined`, `Loops.examined` that a loop and all loops do so;
* `search_examines_once`: the search takes these loops to their end.
-/

namespace ArchAtlas.Graph

namespace Search

/-- The entry that a turn examines, by its node and its index among the successors of that node. -/
def examines? (adjacency : Adjacency) (s : Search) : Option (Nat × Nat) :=
  match s.work with
  | [] => none
  | (v, next) :: _ => if next < (adjacency.successors v).length then some (v, next) else none

/-- What a turn looks up, each index with the size of what it is an index of: the last node and the
successor among the nodes, and on the path the place of the successor, if it has one. -/
def lookups (adjacency : Adjacency) (s : Search) : List (Nat × Nat) :=
  match s.work with
  | [] => []
  | (v, next) :: _ =>
    (v, adjacency.length) ::
      match (adjacency.successors v)[next]? with
      | none => []
      | some w =>
        (w, adjacency.length) :: ((s.place? w).map fun start => (start, s.path.length)).toList

end Search

/-- A loop from a state, with the states at its head and the state in which it ends. -/
inductive Loop (adjacency : Adjacency) : Search → List Search → Search → Prop where
  | done {s} (idle : s.work = []) : Loop adjacency s [s] s
  | turn {s heads ends} (busy : s.work ≠ []) (bounded : ∀ l ∈ s.lookups adjacency, l.1 < l.2)
      (rest : Loop adjacency (s.step adjacency) heads ends) : Loop adjacency s (s :: heads) ends

/-- The search from one root. -/
structure Tour where
  root : Nat
  heads : List Search
  ends : Search

/-- The loops from some roots, in order; a root that has been visited is passed over. -/
inductive Loops (adjacency : Adjacency) : List Nat → Search → List Tour → Search → Prop where
  | nil (s : Search) : Loops adjacency [] s [] s
  | skip {root roots s tours ends} (bound : root < adjacency.length) (seen : root ∈ s.visited)
      (rest : Loops adjacency roots s tours ends) : Loops adjacency (root :: roots) s tours ends
  | tour {root roots s heads s' tours ends} (bound : root < adjacency.length)
      (new : root ∉ s.visited) (loop : Loop adjacency (s.enter root) heads s')
      (rest : Loops adjacency roots s' tours ends) :
      Loops adjacency (root :: roots) s (⟨root, heads, s'⟩ :: tours) ends

/-- At the head of a loop: the nodes of the work stack are those of the path, in order, a node has a place
just if it stands there on the path, each node of the path has an edge to the next, and all of them have
been visited. -/
structure Aligned (adjacency : Adjacency) (s : Search) : Prop where
  work : s.work.map Prod.fst = s.path
  place_iff : ∀ v i, s.place? v = some i ↔ s.path.reverse[i]? = some v
  chain : s.path.reverse.IsChain (Leads adjacency.successors)
  visited : ∀ v ∈ s.path, v ∈ s.visited

/-- When the loop from a root has ended: nothing is left on the path or the work stack, no node has a
place, and all that the root leads to has been visited. -/
structure Rested (adjacency : Adjacency) (root : Nat) (s : Search) : Prop where
  path : s.path = []
  work : s.work = []
  place : ∀ v, s.place? v = none
  reached : ∀ v, Relation.ReflTransGen (Leads adjacency.successors) root v → v ∈ s.visited

/-! ## At the head of a loop -/

section

variable {adjacency : Adjacency} {s : Search} {left : List Nat}

theorem lookup_placed_iff {path : List Nat} (nodup : path.Nodup) (v i : Nat) :
    (placed path).lookup v = some i ↔ path.reverse[i]? = some v := by
  have stands : ∀ {j}, (placed path).lookup v = some j → path.reverse[j]? = some v := by
    intro j found
    obtain ⟨above, below, rfl, rfl⟩ := lookup_placed found
    simp
  refine ⟨stands, fun here => ?_⟩
  cases found : (placed path).lookup v with
  | none =>
    have mem : v ∈ path := List.mem_reverse.mp (List.mem_of_getElem? here)
    exact absurd mem (lookup_placed_none found)
  | some j =>
    obtain ⟨bound, -⟩ := List.getElem?_eq_some_iff.mp here
    have same := here.trans (stands found).symm
    rw [(List.getElem?_inj bound (List.nodup_reverse.mpr nodup)).mp same]

theorem Searching.path_nodup (h : Searching adjacency s left) : s.path.Nodup :=
  (List.nodup_append.mp h.nodup).1

theorem Searching.aligned (h : Searching adjacency s left) : Aligned adjacency s where
  work := h.path
  place_iff v i := by
    rw [Search.place?, h.position]
    exact lookup_placed_iff h.path_nodup v i
  chain := List.isChain_reverse.mpr h.chain
  visited v mem := (h.visited_iff v).mpr (Or.inl mem)

/-- Nothing is looked up out of range. -/
theorem Searching.lookups_lt (range : ∀ u, ∀ x ∈ adjacency.successors u, x < adjacency.length)
    (h : Searching adjacency s left) : ∀ l ∈ s.lookups adjacency, l.1 < l.2 := by
  unfold Search.lookups
  cases top : s.work with
  | nil => simp
  | cons f below =>
    obtain ⟨v, next⟩ := f
    have here : v ∈ s.path := by rw [← h.path, top]; exact List.mem_cons_self
    have node : v < adjacency.length :=
      h.departing.bound v ((h.visited_iff v).mpr (Or.inl here))
    intro l mem
    rcases List.mem_cons.mp mem with rfl | mem
    · exact node
    · cases nextIs : (adjacency.successors v)[next]? with
      | none => simp [nextIs] at mem
      | some w =>
        simp only [nextIs, List.mem_cons, Option.mem_toList, Option.map_eq_some_iff] at mem
        rcases mem with rfl | ⟨start, on, rfl⟩
        · exact range v w (List.mem_of_getElem? nextIs)
        · obtain ⟨bound, -⟩ := List.getElem?_eq_some_iff.mp ((h.aligned.place_iff w start).mp on)
          rwa [List.length_reverse] at bound

/-- With nothing on the stack, what has been visited is closed under edges. -/
theorem Searching.rested {root : Nat} (h : Searching adjacency s left) (idle : s.work = [])
    (seen : root ∈ s.visited) : Rested adjacency root s := by
  have bare : s.path = [] := by rw [← h.path, idle, List.map_nil]
  refine ⟨bare, idle, fun v => ?_, fun v way => ?_⟩
  · rw [Search.place?, h.position, bare]
    rfl
  · induction way with
    | refl => exact seen
    | @tail u w _ edge ih =>
      have gone : u ∈ left := by simpa [bare] using (h.visited_iff u).mp ih
      exact h.departing.closed u gone w edge

end

/-! ## What has been examined -/

/-- The entries examined so far: those of the nodes visited, and of a node on the work stack those before
the one to look at next. None has been examined twice. -/
structure Examined (adjacency : Adjacency) (visited : List Nat) (work entries : List (Nat × Nat)) :
    Prop where
  nodup : entries.Nodup
  mem_iff : ∀ v k, (v, k) ∈ entries ↔
    k < (adjacency.successors v).length ∧ v ∈ visited ∧ ∀ next, (v, next) ∈ work → k < next

section

variable {adjacency : Adjacency} {visited : List Nat} {work below entries : List (Nat × Nat)}
variable {v w next : Nat}

/-- A node is entered with nothing examined at it. -/
theorem Examined.enter (h : Examined adjacency visited work entries) (new : w ∉ visited) :
    Examined adjacency (w :: visited) ((w, 0) :: work) entries := by
  refine ⟨h.nodup, fun u k => ?_⟩
  rw [h.mem_iff]
  by_cases same : u = w
  · subst same
    constructor
    · exact fun old => absurd old.2.1 new
    · exact fun now => absurd (now.2.2 0 List.mem_cons_self) (Nat.not_lt_zero k)
  · simp [same]

/-- The last node is left with all its entries examined. -/
theorem Examined.leave (h : Examined adjacency visited ((v, next) :: below) entries)
    (last : (adjacency.successors v).length ≤ next) : Examined adjacency visited below entries := by
  refine ⟨h.nodup, fun u k => ?_⟩
  rw [h.mem_iff]
  refine and_congr_right fun bound => and_congr_right fun _ => ⟨?_, ?_⟩
  · intro all n mem
    exact all n (List.mem_cons_of_mem _ mem)
  · intro all n mem
    rcases List.mem_cons.mp mem with same | mem
    · obtain ⟨rfl, rfl⟩ := Prod.mk.inj same
      omega
    · exact all n mem

/-- The next entry of the last node has not been examined before. -/
theorem Examined.advance (h : Examined adjacency visited ((v, next) :: below) entries)
    (fresh : v ∉ below.map Prod.fst) (seen : v ∈ visited)
    (bound : next < (adjacency.successors v).length) :
    Examined adjacency visited ((v, next + 1) :: below) (entries ++ [(v, next)]) := by
  have alone : ∀ n, (v, n) ∉ below := fun n mem => fresh (List.mem_map.mpr ⟨(v, n), mem, rfl⟩)
  have unexamined : (v, next) ∉ entries := by
    intro mem
    have := ((h.mem_iff v next).mp mem).2.2 next List.mem_cons_self
    omega
  refine ⟨?_, fun u k => ?_⟩
  · refine List.nodup_append.mpr ⟨h.nodup, List.nodup_singleton _, ?_⟩
    intro e mem e' mem' same
    obtain rfl := List.mem_singleton.mp mem'
    exact unexamined (same ▸ mem)
  · rw [List.mem_append, List.mem_singleton, h.mem_iff]
    by_cases same : u = v
    · subst same
      simp only [List.mem_cons, Prod.mk.injEq, true_and, alone, or_false, forall_eq, seen]
      omega
    · simp [same]

end

section

variable {adjacency : Adjacency} {s : Search} {left : List Nat} {entries : List (Nat × Nat)}
variable {v next : Nat} {below : List (Nat × Nat)}

/-- What a turn does to the nodes visited and to the work stack: it leaves the last node, or looks at its
next successor and enters that if it is new. -/
theorem Search.step_cases (adjacency : Adjacency) (top : s.work = (v, next) :: below) :
    ((adjacency.successors v).length ≤ next ∧
      (s.step adjacency).visited = s.visited ∧ (s.step adjacency).work = below) ∨
    (next < (adjacency.successors v).length ∧
      (s.step adjacency).visited = s.visited ∧ (s.step adjacency).work = (v, next + 1) :: below) ∨
    ∃ w ∉ s.visited, next < (adjacency.successors v).length ∧
      (s.step adjacency).visited = w :: s.visited ∧
      (s.step adjacency).work = (w, 0) :: (v, next + 1) :: below := by
  cases nextIs : (adjacency.successors v)[next]? with
  | none =>
    refine Or.inl ⟨List.getElem?_eq_none_iff.mp nextIs, ?_, ?_⟩
    · simp [Search.step, top, nextIs]
    · simp [Search.step, top, nextIs]
  | some w =>
    obtain ⟨bound, -⟩ := List.getElem?_eq_some_iff.mp nextIs
    by_cases seen : w ∈ s.visited
    · refine Or.inr (Or.inl ⟨bound, ?_, ?_⟩)
      · simp only [Search.step, top, nextIs, seen, if_true]
        split <;> rfl
      · simp only [Search.step, top, nextIs, seen, if_true]
        split <;> rfl
    · refine Or.inr (Or.inr ⟨w, seen, bound, ?_, ?_⟩)
      · simp [Search.step, top, nextIs, seen, Search.enter]
      · simp [Search.step, top, nextIs, seen, Search.enter]

theorem Search.visited_step (adjacency : Adjacency) {u : Nat} (mem : u ∈ s.visited) :
    u ∈ (s.step adjacency).visited := by
  cases top : s.work with
  | nil => simpa [Search.step, top] using mem
  | cons f below =>
    rcases Search.step_cases adjacency top with ⟨-, same, -⟩ | ⟨-, same, -⟩ | ⟨w, -, -, more, -⟩
    · rwa [same]
    · rwa [same]
    · rw [more]
      exact List.mem_cons_of_mem _ mem

/-- One turn examines at most one entry, and none again. -/
theorem Examined.step (h : Examined adjacency s.visited s.work entries)
    (search : Searching adjacency s left) (busy : s.work ≠ []) :
    Examined adjacency (s.step adjacency).visited (s.step adjacency).work
      (entries ++ (s.examines? adjacency).toList) := by
  obtain ⟨⟨v, next⟩, below, top⟩ := List.exists_cons_of_ne_nil busy
  have path := search.path
  have nodup := search.path_nodup
  rw [← path, top, List.map_cons, List.nodup_cons] at nodup
  have seen : v ∈ s.visited := by
    refine (search.visited_iff v).mpr (Or.inl ?_)
    rw [← path, top]
    exact List.mem_cons_self
  rw [top] at h
  rcases Search.step_cases adjacency top with ⟨last, visited, work⟩ | ⟨bound, visited, work⟩ |
    ⟨w, new, bound, visited, work⟩
  · have silent : s.examines? adjacency = none := by simp [Search.examines?, top, last]
    rw [silent, visited, work]
    simpa using h.leave last
  · have entry : s.examines? adjacency = some (v, next) := by simp [Search.examines?, top, bound]
    rw [entry, visited, work]
    exact h.advance nodup.1 seen bound
  · have entry : s.examines? adjacency = some (v, next) := by simp [Search.examines?, top, bound]
    rw [entry, visited, work]
    exact (h.advance nodup.1 seen bound).enter new

end

/-! ## One loop -/

section

variable {adjacency : Adjacency} {s ends : Search} {left : List Nat} {heads : List Search}

theorem Loop.idle (loop : Loop adjacency s heads ends) : ends.work = [] := by
  induction loop with
  | done idle => exact idle
  | turn _ _ _ ih => exact ih

theorem Loop.ends_mem (loop : Loop adjacency s heads ends) : ends ∈ heads := by
  induction loop with
  | done => exact List.mem_cons_self
  | turn _ _ _ ih => exact List.mem_cons_of_mem _ ih

theorem Loop.visited (loop : Loop adjacency s heads ends) {v : Nat} (mem : v ∈ s.visited) :
    v ∈ ends.visited := by
  induction loop with
  | done => exact mem
  | turn _ _ _ ih => exact ih (Search.visited_step adjacency mem)

theorem Loop.examined (loop : Loop adjacency s heads ends)
    (sound : ∀ x ∈ heads, ∃ left, Searching adjacency x left) {entries : List (Nat × Nat)}
    (h : Examined adjacency s.visited s.work entries) :
    Examined adjacency ends.visited ends.work
      (entries ++ heads.filterMap (Search.examines? adjacency)) := by
  induction loop generalizing entries with
  | done idle =>
    simpa [Search.examines?, idle] using h
  | @turn s heads ends busy _ _ ih =>
    obtain ⟨left, search⟩ := sound s List.mem_cons_self
    have stepped := ih (fun x mem => sound x (List.mem_cons_of_mem _ mem)) (h.step search busy)
    rw [List.append_assoc] at stepped
    rw [List.filterMap_cons]
    cases entry : s.examines? adjacency <;> simpa [entry] using stepped

/-- The turns allowed take the loop to its end, and the invariant holds at each of its heads. -/
theorem loop_run (range : ∀ u, ∀ x ∈ adjacency.successors u, x < adjacency.length) {fuel : Nat}
    (h : Searching adjacency s left) (enough : turns adjacency s ≤ fuel) :
    ∃ heads, Loop adjacency s heads (Search.run adjacency fuel s) ∧
      ∀ x ∈ heads, ∃ left, Searching adjacency x left := by
  induction fuel generalizing s left with
  | zero =>
    have idle : s.work = [] := (run_done range h enough).2.2
    exact ⟨[s], .done idle, by simpa using ⟨left, h⟩⟩
  | succ fuel ih =>
    rw [Search.run]
    split
    · rename_i idle
      exact ⟨[s], .done (List.isEmpty_iff.mp idle), by simpa using ⟨left, h⟩⟩
    · rename_i work
      have busy : s.work ≠ [] := fun idle => work (List.isEmpty_iff.mpr idle)
      obtain ⟨⟨left', stepped⟩, -, fewer⟩ := h.step range busy
      obtain ⟨heads, loop, sound⟩ := ih stepped (by omega)
      refine ⟨s :: heads, .turn busy (h.lookups_lt range) loop, fun x mem => ?_⟩
      rcases List.mem_cons.mp mem with rfl | mem
      · exact ⟨left, h⟩
      · exact sound x mem

end

/-! ## All loops -/

section

variable {adjacency : Adjacency} {roots : List Nat} {s ends : Search} {tours : List Tour}

theorem Loops.loop_of_mem (loops : Loops adjacency roots s tours ends) {t : Tour}
    (mem : t ∈ tours) : ∃ before : Search, Loop adjacency (before.enter t.root) t.heads t.ends := by
  induction loops with
  | nil => cases mem
  | skip _ _ _ ih => exact ih mem
  | @tour root roots s heads s' tours ends _ _ loop _ ih =>
    rcases List.mem_cons.mp mem with rfl | mem
    · exact ⟨s, loop⟩
    · exact ih mem

theorem Loops.visited (loops : Loops adjacency roots s tours ends) {v : Nat}
    (mem : v ∈ s.visited ∨ v ∈ roots) : v ∈ ends.visited := by
  induction loops with
  | nil => exact mem.resolve_right List.not_mem_nil
  | skip _ seen _ ih =>
    apply ih
    rcases mem with old | mem
    · exact Or.inl old
    · rcases List.mem_cons.mp mem with rfl | mem
      · exact Or.inl seen
      · exact Or.inr mem
  | tour _ _ loop _ ih =>
    apply ih
    rcases mem with old | mem
    · exact Or.inl (loop.visited (List.mem_cons_of_mem _ old))
    · rcases List.mem_cons.mp mem with rfl | mem
      · exact Or.inl (loop.visited List.mem_cons_self)
      · exact Or.inr mem

theorem Loops.examined (loops : Loops adjacency roots s tours ends)
    (sound : ∀ t ∈ tours, ∀ x ∈ t.heads, ∃ left, Searching adjacency x left)
    {entries : List (Nat × Nat)} (h : Examined adjacency s.visited [] entries) (idle : s.work = []) :
    Examined adjacency ends.visited []
      (entries ++ (tours.flatMap Tour.heads).filterMap (Search.examines? adjacency)) := by
  induction loops generalizing entries with
  | nil => simpa using h
  | skip _ _ _ ih => exact ih sound h idle
  | @tour root roots s heads s' tours ends _ new loop _ ih =>
    have entered : Examined adjacency (s.enter root).visited (s.enter root).work entries := by
      simpa [Search.enter, idle] using h.enter new
    have toured := loop.examined (sound _ List.mem_cons_self) entered
    rw [loop.idle] at toured
    have rest := ih (fun t mem => sound t (List.mem_cons_of_mem _ mem)) toured loop.idle
    simpa [List.filterMap_append] using rest

theorem loops_roots (range : ∀ u, ∀ x ∈ adjacency.successors u, x < adjacency.length)
    {left : List Nat} (bound : ∀ v ∈ roots, v < adjacency.length) (h : Searching adjacency s left)
    (idle : s.work = []) :
    ∃ tours, Loops adjacency roots s tours (roots.foldl (Search.fromRoot adjacency) s) ∧
      ∀ t ∈ tours, ∀ x ∈ t.heads, ∃ left, Searching adjacency x left := by
  induction roots generalizing s left with
  | nil => exact ⟨[], .nil s, by simp⟩
  | cons root roots ih =>
    have first := bound root List.mem_cons_self
    have others : ∀ v ∈ roots, v < adjacency.length := fun v mem => bound v (List.mem_cons_of_mem _ mem)
    rw [List.foldl_cons]
    by_cases seen : root ∈ s.visited
    · rw [Search.fromRoot, if_pos seen]
      obtain ⟨tours, loops, sound⟩ := ih others h idle
      exact ⟨tours, .skip first seen loops, sound⟩
    · rw [Search.fromRoot, if_neg seen]
      obtain ⟨heads, loop, here⟩ :=
        loop_run range (h.root idle first seen) (turns_root_le idle first seen)
      obtain ⟨left', searched⟩ := here _ loop.ends_mem
      obtain ⟨tours, loops, sound⟩ := ih others searched loop.idle
      refine ⟨_, .tour first seen loop loops, fun t mem => ?_⟩
      rcases List.mem_cons.mp mem with rfl | mem
      · exact here
      · exact sound t mem

end

/-- Whatever the entries of an adjacency list, if all of them are nodes, the search for cycles comes to an
end without looking anything up out of range. At the head of each loop the path, the work stack and the
places agree, and when the loop from a root ends, nothing is left on them and all that the root leads to
has been visited. Over the whole search, each entry is examined once. -/
theorem search_examines_once {adjacency : Adjacency} (range : adjacency.inRange = true) :
    ∃ tours ends, Loops adjacency (List.range adjacency.length) .initial tours ends ∧
      cycles? adjacency = some ends.found.reverse ∧
      (∀ t ∈ tours, (∀ s ∈ t.heads, Aligned adjacency s) ∧ Rested adjacency t.root t.ends) ∧
      ∀ v k, ((tours.flatMap Tour.heads).filterMap (Search.examines? adjacency)).count (v, k) =
        if k < (adjacency.successors v).length then 1 else 0 := by
  have bounded := inRange_iff.mp range
  obtain ⟨tours, loops, sound⟩ :=
    loops_roots bounded (fun v => List.mem_range.mp) (Searching.initial adjacency) rfl
  refine ⟨tours, _, loops, by rw [cycles?, if_pos range, cycles], fun t mem => ⟨?_, ?_⟩, ?_⟩
  · intro s head
    obtain ⟨left, search⟩ := sound t mem s head
    exact search.aligned
  · obtain ⟨before, loop⟩ := loops.loop_of_mem mem
    obtain ⟨left, search⟩ := sound t mem t.ends loop.ends_mem
    exact search.rested loop.idle (loop.visited List.mem_cons_self)
  · intro v k
    have start : Examined adjacency Search.initial.visited [] [] :=
      ⟨List.nodup_nil, by simp [Search.initial]⟩
    have examined := loops.examined sound start rfl
    rw [List.nil_append] at examined
    have mem : (v, k) ∈ (tours.flatMap Tour.heads).filterMap (Search.examines? adjacency) ↔
        k < (adjacency.successors v).length := by
      rw [examined.mem_iff]
      refine ⟨fun h => h.1, fun inside => ⟨inside, ?_, by simp⟩⟩
      have edge : Leads adjacency.successors v (adjacency.successors v)[k] := List.getElem_mem inside
      exact loops.visited (Or.inr (List.mem_range.mpr (lt_of_leads edge)))
    rw [examined.nodup.count]
    exact if_congr mem rfl rfl

/-- Two of the four nodes are roots; node 0 lists node 1 twice, and both entries are examined. -/
theorem search_examines_once_twoRoots :
    let adjacency : Adjacency := [[1, 2, 1], [0], [2], [0, 3]]
    adjacency.inRange = true ∧
    ∃ tours ends, Loops adjacency [0, 1, 2, 3] .initial tours ends ∧
      ends.found.reverse = [[0, 1], [2], [3]] ∧
      ((tours.flatMap Tour.heads).filterMap (Search.examines? adjacency)).count (0, 0) = 1 ∧
      ((tours.flatMap Tour.heads).filterMap (Search.examines? adjacency)).count (0, 2) = 1 ∧
      ((tours.flatMap Tour.heads).filterMap (Search.examines? adjacency)).count (0, 3) = 0 := by
  intro adjacency
  have range : adjacency.inRange = true := by decide
  have value : cycles? adjacency = some [[0, 1], [2], [3]] := by decide
  obtain ⟨tours, ends, loops, found, -, once⟩ := search_examines_once range
  exact ⟨range, tours, ends, loops, Option.some.inj (found.symm.trans value), once 0 0, once 0 2,
    once 0 3⟩

end ArchAtlas.Graph
