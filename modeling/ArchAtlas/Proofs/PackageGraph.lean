import ArchAtlas.Proofs.Graph.Basic
import ArchAtlas.Proofs.PackageGraph.Scan

namespace ArchAtlas.PackageGraph

open ArchAtlas.Graph (Mutual IsCycle)

def Imports (g : PackageGraph) (x y : String) : Prop :=
  ∃ e ∈ g.edges, e.source = x ∧ e.target = y

instance (g : PackageGraph) (x y : String) : Decidable (g.Imports x y) :=
  inferInstanceAs (Decidable (∃ e ∈ g.edges, _))

/-! ## Where imports lead -/

/-- There is one node for each id, in the order of their first packages. -/
theorem owners_ids (p : Facts.Project) :
    (owners p).map Prod.fst = (p.packages.map (packageId p.moduleName)).eraseDups := by
  unfold owners
  generalize p.packages = packages
  induction packages using List.reverseRecOn with
  | nil => rfl
  | append_singleton packages pkg ih =>
    rw [List.foldl_append, List.foldl_cons, List.foldl_nil, List.map_append, List.map_singleton,
      eraseDups_append_singleton]
    generalize packages.foldl _ [] = acc at ih ⊢
    have known : (acc.any fun o => o.1 = packageId p.moduleName pkg) = true ↔
        packageId p.moduleName pkg ∈ packages.map (packageId p.moduleName) := by
      rw [← List.mem_eraseDups, ← ih]
      simp
    dsimp only
    by_cases old : packageId p.moduleName pkg ∈ packages.map (packageId p.moduleName)
    · rw [if_pos old, if_pos (known.mpr old), ih]
    · rw [if_neg old, if_neg fun found => old (known.mp found), List.map_append, ih]
      rfl

section

variable {owners : List (String × Facts.Package)} {language : Language} {source target : Nat}

theorem resolve?_lt {path : String} (h : resolve? owners path = some target) :
    target < owners.length := by
  rw [resolve?, Option.orElse_eq_orElse, Option.orElse_eq_or, Option.or_eq_some_iff] at h
  rcases h with h | ⟨-, h⟩
  · exact (List.findIdx?_eq_some_iff_getElem.mp h).1
  · exact (List.findIdx?_eq_some_iff_getElem.mp h).1

theorem importTarget?_spec {i : Facts.Import}
    (h : importTarget? language owners source i = some target) :
    target < owners.length ∧ target ≠ source := by
  unfold importTarget? at h
  split at h
  · cases h
  · obtain ⟨found, apart⟩ := Option.filter_eq_some_iff.mp h
    exact ⟨resolve?_lt found, by simpa using apart⟩

theorem statements_spec {pkg : Facts.Package} {s : Nat × Statement}
    (h : s ∈ statements language owners source pkg) : s.1 < owners.length ∧ s.1 ≠ source := by
  rw [statements, List.mem_eraseDups, List.mem_filterMap] at h
  obtain ⟨i, -, h⟩ := h
  obtain ⟨target, found, rfl⟩ := Option.map_eq_some_iff.mp h
  exact importTarget?_spec found

/-- An edge from a node leads to another node. -/
theorem edgesFrom_spec {o : String × Facts.Package} {e : Dependency}
    (h : e ∈ edgesFrom language owners (o, source)) :
    e.source = o.1 ∧ ∃ target, target ≠ source ∧ (owners.map Prod.fst)[target]? = some e.target := by
  obtain ⟨target, mem, rfl⟩ := List.mem_map.mp h
  obtain ⟨s, found, rfl⟩ := List.mem_map.mp (List.mem_eraseDups.mp mem)
  obtain ⟨bound, apart⟩ := statements_spec found
  refine ⟨rfl, s.1, apart, ?_⟩
  simp [idAt, List.getElem?_eq_getElem bound]

end

variable (config : Config.Cycles) (p : Facts.Project)

theorem owners_ids_nodup : ((owners p).map Prod.fst).Nodup := by
  rw [owners_ids]
  exact nodup_eraseDups _

theorem build_edges_eq_flatMap :
    (build config p).edges = (owners p).zipIdx.flatMap (edgesFrom p.language (owners p)) :=
  importEdges_eq (owners_ids_nodup p)

theorem build_ids : (build config p).nodes.map PackageNode.id = (owners p).map Prod.fst := by
  simp only [build, List.map_map]
  rfl

/-- An import of the project joins two different nodes. -/
theorem exists_places_of_mem_edges {e : Dependency} (h : e ∈ (build config p).edges) :
    ∃ i j : Nat, i ≠ j ∧ ((build config p).nodes.map PackageNode.id)[i]? = some e.source ∧
      ((build config p).nodes.map PackageNode.id)[j]? = some e.target := by
  rw [build_edges_eq_flatMap] at h
  rw [build_ids]
  obtain ⟨⟨o, i⟩, place, mem⟩ := List.mem_flatMap.mp h
  obtain ⟨source, j, apart, target⟩ := edgesFrom_spec mem
  refine ⟨i, j, apart.symm, ?_, target⟩
  rw [List.getElem?_map, List.mem_zipIdx_iff_getElem?.mp place, source]
  rfl

theorem build_ids_nodup : ((build config p).nodes.map PackageNode.id).Nodup := by
  rw [build_ids]
  exact owners_ids_nodup p

theorem imports_nodes {x y : String} (h : (build config p).Imports x y) :
    x ≠ y ∧ x ∈ (build config p).nodes.map PackageNode.id ∧
      y ∈ (build config p).nodes.map PackageNode.id := by
  obtain ⟨e, mem, rfl, rfl⟩ := h
  obtain ⟨i, j, apart, source, target⟩ := exists_places_of_mem_edges config p mem
  refine ⟨fun same => apart ?_, List.mem_of_getElem? source, List.mem_of_getElem? target⟩
  rw [← same] at target
  exact Option.some.inj ((idxOf?_of_getElem? (build_ids_nodup config p) source).symm.trans
    (idxOf?_of_getElem? (build_ids_nodup config p) target))

/-! ## Cycles of imports -/

/-- The graph of the ids has the edges between different nodes. -/
theorem skeleton_spec (nodes : List PackageNode) (edges : List Dependency) :
    (skeleton nodes edges).WellFormed ∧
    (∀ x, x ∈ (skeleton nodes edges).ids ↔ x ∈ nodes.map PackageNode.id) ∧
    ∀ x y, (skeleton nodes edges).HasEdge x y ↔
      (∃ e ∈ edges, e.source = x ∧ e.target = y) ∧
        x ≠ y ∧ x ∈ nodes.map PackageNode.id ∧ y ∈ nodes.map PackageNode.id := by
  induction edges using List.reverseRecOn with
  | nil =>
    obtain ⟨formed, ids, bare⟩ := Graph.ofNodes_wellFormed (nodes.map PackageNode.id)
    refine ⟨formed, fun x => ?_, fun x y => ?_⟩
    · rw [skeleton, List.foldl_nil, ids, List.mem_eraseDups]
    · refine ⟨?_, by simp⟩
      rintro ⟨i, j, -, -, edge⟩
      rw [Graph.Leads, skeleton, List.foldl_nil, bare i] at edge
      cases edge
  | append_singleton edges e ih =>
    obtain ⟨formed, ids, joins⟩ := ih
    have last : skeleton nodes (edges ++ [e]) =
        ((skeleton nodes edges).addEdge e.source e.target).1 := by
      simp [skeleton]
    rw [last]
    refine ⟨formed.addEdge _ _, fun x => ?_, fun x y => ?_⟩
    · rw [Graph.addEdge_ids, ids x]
    · rw [formed.hasEdge_addEdge, joins x y, ids, ids]
      constructor
      · rintro (⟨⟨f, mem, ends⟩, known⟩ | ⟨rfl, rfl, known⟩)
        · exact ⟨⟨f, List.mem_append_left _ mem, ends⟩, known⟩
        · exact ⟨⟨e, by simp, rfl, rfl⟩, known⟩
      · rintro ⟨⟨f, mem, rfl, rfl⟩, known⟩
        rcases List.mem_append.mp mem with mem | mem
        · exact Or.inl ⟨⟨f, mem, rfl, rfl⟩, known⟩
        · obtain rfl : f = e := by simpa using mem
          exact Or.inr ⟨rfl, rfl, known⟩

/-- No import of a project is lost in the graph of the ids. -/
theorem skeleton_hasEdge :
    (skeleton (build config p).nodes (build config p).edges).HasEdge = (build config p).Imports := by
  funext x y
  refine propext (((skeleton_spec _ _).2.2 x y).trans ⟨fun h => h.1, fun h => ⟨h, ?_⟩⟩)
  exact imports_nodes config p h

theorem map_packages_cycles :
    (build config p).cycles.map PackageCycle.packages =
      (skeleton (build config p).nodes (build config p).edges).namedCycles := by
  simp only [build, findCycles, List.map_map]
  exact List.map_id _

theorem severity_eq_warning {length : Nat} :
    config.severity length = .warning ↔ length ≤ config.warningMaxLength.toNat := by
  unfold Config.Cycles.severity
  split <;> simp_all

/-- The cycles of a package layer are faithful to its imports: each is a simple cycle of two or more
nodes, none is listed twice, and every component of two or more packages holds one, so that there are
none just where the imports are acyclic. A cycle is a warning up to the configured length. -/
structure CyclesFaithful (config : Config.Cycles) (g : PackageGraph) : Prop where
  two_le_length : ∀ c ∈ g.cycles, 2 ≤ c.packages.length
  nodes : ∀ c ∈ g.cycles, ∀ x ∈ c.packages, x ∈ g.nodes.map PackageNode.id
  simple : ∀ c ∈ g.cycles, IsCycle g.Imports c.packages
  distinct : (g.cycles.map PackageCycle.packages).Nodup
  component : ∀ x y, x ≠ y → Mutual g.Imports x y →
    ∃ c ∈ g.cycles, ∀ z ∈ c.packages, Mutual g.Imports x z
  acyclic : g.cycles = [] ↔ ∀ x, ¬ Relation.TransGen g.Imports x x
  severity : ∀ c ∈ g.cycles,
    (c.severity = .warning ↔ c.packages.length ≤ config.warningMaxLength.toNat)

theorem build_cycles_faithful (config : Config.Cycles) (p : Facts.Project) :
    CyclesFaithful config (build config p) := by
  have formed := (skeleton_spec (build config p).nodes (build config p).edges).1
  have edges := skeleton_hasEdge config p
  have names := map_packages_cycles config p
  obtain ⟨cyclic, distinct⟩ := formed.namedCycles_simple
  rw [edges] at cyclic
  have simple : ∀ c ∈ (build config p).cycles, IsCycle (build config p).Imports c.packages :=
    fun c mem => cyclic c.packages (names ▸ List.mem_map_of_mem mem)
  refine ⟨?_, ?_, simple, ?_, ?_, ?_, ?_⟩
  · intro c mem
    exact (simple c mem).two_le_length fun x loop => (imports_nodes config p loop).1 rfl
  · intro c mem x hx
    obtain ⟨y, edge, -⟩ := Relation.TransGen.head'_iff.mp ((simple c mem).transGen hx hx)
    exact (imports_nodes config p edge).2.1
  · rw [names]
    exact distinct
  · intro x y apart same
    rw [← edges] at same ⊢
    obtain ⟨c, mem, inside⟩ := formed.exists_namedCycle apart same
    exact ⟨_, List.mem_map_of_mem mem, inside⟩
  · rw [← edges, ← formed.namedCycles_eq_nil_iff, ← names, List.map_eq_nil_iff]
  · intro c mem
    obtain ⟨packages, -, rfl⟩ := List.mem_map.mp mem
    exact severity_eq_warning config

/-- Two packages that import each other, and a third that imports one of them. -/
def mutualImports : Facts.Project :=
  { Facts.Project.empty with
    packages := [("x.io/a", "x.io/b"), ("x.io/b", "x.io/a"), ("x.io/c", "x.io/a")].map
      fun (name, path) => ⟨name, name, "", [], [⟨path, none, none⟩], [], [], []⟩ }

theorem build_cycles_faithful_mutualImports :
    Mutual (build .default mutualImports).Imports "x.io/a" "x.io/b" ∧
    ∃ c ∈ (build .default mutualImports).cycles,
      ∀ z ∈ c.packages, Mutual (build .default mutualImports).Imports "x.io/a" z := by
  have both : Mutual (build .default mutualImports).Imports "x.io/a" "x.io/b" :=
    ⟨.single (by decide), .single (by decide)⟩
  exact ⟨both, (build_cycles_faithful .default mutualImports).component _ _ (by decide) both⟩

end ArchAtlas.PackageGraph
