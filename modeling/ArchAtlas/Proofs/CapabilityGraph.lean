import ArchAtlas.Proofs.Document.Capability
import ArchAtlas.Proofs.Matching.Grounded

namespace ArchAtlas.CapabilityGraph

variable {p : Facts.Project} {implementations : List Matching.Implementation}
variable {edges : List CapabilityEdge}

/-! ## Nodes -/

/-- Whether a declared type is shown: a struct only where an edge touches it. -/
def appears (edges : List CapabilityEdge) (d : Declaration) : Bool :=
  d.kind = .interface || isTouched edges d.id

def counted (edges : List CapabilityEdge) (d : Declaration) : CapabilityNode :=
  { candidate d with fanIn := (sources edges d.id).length, fanOut := (targets edges d.id).length }

def uncounted (n : CapabilityNode) : CapabilityNode := { n with fanIn := 0, fanOut := 0 }

theorem nodesFor_eq (p : Facts.Project) (edges : List CapabilityEdge) :
    nodesFor p edges = ((Declaration.ofProject p).filter (appears edges)).map (counted edges) := by
  have shown : (fun n : CapabilityNode => decide (n.kind = .interface) || isTouched edges n.id) ∘
      candidate = appears edges := by
    funext d
    cases kind : d.kind <;> simp [appears, candidate, kind]
  simp only [nodesFor, Bool.or_assoc, Fans.contains_eq_isTouched, Fans.length_incoming,
    Fans.length_outgoing]
  rw [List.filter_map, shown, List.map_map]
  rfl

theorem uncounted_nodesFor (p : Facts.Project) (edges : List CapabilityEdge) :
    (nodesFor p edges).map uncounted =
      p.packages.flatMap fun pkg =>
        (pkg.interfaces.map fun t => candidate ⟨pkg, t, .interface⟩) ++
          (pkg.structs.filter fun t => isTouched edges (pkg.typeId t)).map
            fun t => candidate ⟨pkg, t, .struct⟩ := by
  rw [nodesFor_eq, List.map_map, Declaration.ofProject, List.filter_flatMap, List.map_flatMap]
  refine List.flatMap_congr fun pkg _ => ?_
  rw [Declaration.ofPackage, List.filter_append, List.filter_map, List.filter_map, List.map_append,
    List.map_map, List.map_map]
  have all : pkg.interfaces.filter (appears edges ∘ fun t => ⟨pkg, t, .interface⟩) = pkg.interfaces :=
    List.filter_eq_self.mpr fun _ _ => rfl
  rw [all]
  rfl

theorem mem_nodesFor {d : Declaration} (mem : d ∈ Declaration.ofProject p)
    (touched : isTouched edges d.id = true) : d.id ∈ (nodesFor p edges).map CapabilityNode.id := by
  have shown : d ∈ (Declaration.ofProject p).filter (appears edges) :=
    List.mem_filter.mpr ⟨mem, by simp [appears, touched]⟩
  rw [nodesFor_eq, List.map_map]
  exact List.mem_map.mpr ⟨d, shown, rfl⟩

theorem ids_nodesFor_nodup (distinct : ((Declaration.ofProject p).map Declaration.id).Nodup) :
    ((nodesFor p edges).map CapabilityNode.id).Nodup := by
  rw [nodesFor_eq, List.map_map]
  exact distinct.sublist (List.filter_sublist.map _)

/-- The counts of a node are those of the different ends of edges at its id. -/
theorem fans_nodesFor {n : CapabilityNode} (mem : n ∈ nodesFor p edges) :
    n.fanIn = ((edges.filter fun e => e.target = n.id).map CapabilityEdge.source).toFinset.card ∧
    n.fanOut = ((edges.filter fun e => e.source = n.id).map CapabilityEdge.target).toFinset.card := by
  rw [nodesFor_eq] at mem
  obtain ⟨d, -, rfl⟩ := List.mem_map.mp mem
  exact ⟨length_eraseDups _, length_eraseDups _⟩

/-! ## Edges and risks -/

def IsDeclared (p : Facts.Project) (id : String) : Prop :=
  ∃ d ∈ Declaration.ofProject p, d.id = id

/-- What matching finds, with an oracle or without, is between declared types. -/
theorem declared_of_grounded (grounded : Matching.Grounded p implementations)
    {i : Matching.Implementation} (mem : i ∈ implementations) :
    IsDeclared p i.structId ∧ IsDeclared p i.interfaceId := by
  obtain ⟨s, hs, t, ht, -, ends⟩ := grounded.declared i mem
  obtain ⟨source, target⟩ := Prod.mk.inj ends
  constructor
  · obtain ⟨pkg, hp, here⟩ := List.mem_flatMap.mp hs
    obtain ⟨type, listed, rfl⟩ := List.mem_map.mp here
    exact ⟨⟨pkg, type, .struct⟩, Declaration.mem_ofProject.mpr ⟨hp, listed⟩, source.symm⟩
  · obtain ⟨pkg, hp, here⟩ := List.mem_flatMap.mp ht
    obtain ⟨type, listed, rfl⟩ := List.mem_map.mp here
    exact ⟨⟨pkg, type, .interface⟩, Declaration.mem_ofProject.mpr ⟨hp, listed⟩, target.symm⟩

/-- An edge joins declared types: those of an implementation, or a struct with what its field is typed
by. -/
theorem ends_declared
    (declared : ∀ i ∈ implementations, IsDeclared p i.structId ∧ IsDeclared p i.interfaceId)
    {e : CapabilityEdge} (mem : e ∈ (build p implementations).edges) :
    IsDeclared p e.source ∧ IsDeclared p e.target := by
  rw [build_edges] at mem
  rcases List.mem_append.mp (mem_of_mem_firstBy mem) with made | made
  · obtain ⟨i, hi, rfl⟩ := List.mem_map.mp made
    exact declared i hi
  · obtain ⟨u, hu, rfl⟩ := List.mem_map.mp made
    obtain ⟨pkg, hp, s, hs, _, -, found, -, source, -⟩ := mem_usages hu
    have owner : ⟨pkg, s, .struct⟩ ∈ Declaration.ofProject p := Declaration.mem_ofProject.mpr ⟨hp, hs⟩
    exact ⟨⟨_, owner, source.symm⟩, TypeIndex.resolve?_declared found⟩

/-- What a risk is about: the struct that has the field, and the struct that it holds. -/
def riskEnds (r : UsageRisk) : String × String := (r.owner, r.concreteType)

theorem risk_of_usage {u : Usage} (mem : u ∈ usages p) :
    u.risk.map riskEnds = if u.edge.concreteUsage then some u.edge.ends else none := by
  simp only [usages, List.mem_flatMap, List.mem_filterMap, usage?, Option.map_eq_some_iff] at mem
  obtain ⟨pkg, -, s, -, f, -, target, -, rfl⟩ := mem
  by_cases concrete : (TypeIndex.build p).isStruct target
  · simp [concrete, riskEnds, CapabilityEdge.ends]
  · simp [concrete]

def isConcrete (e : CapabilityEdge) : Bool := e.concreteUsage && decide (e.kind = .uses)

theorem risk_of_kept {u : Usage} (mem : u ∈ kept p implementations) :
    u.risk.map riskEnds = if isConcrete u.edge then some u.edge.ends else none := by
  rcases List.mem_append.mp (mem_of_mem_firstBy mem) with made | made
  · obtain ⟨i, -, rfl⟩ := List.mem_map.mp made
    rfl
  · obtain ⟨_, -, _, -, _, -, -, kind, -⟩ := mem_usages made
    simp [risk_of_usage made, isConcrete, kind]

/-- The uses of structs are reported, in the order of their edges. -/
theorem risks_build (p : Facts.Project) (implementations : List Matching.Implementation) :
    (build p implementations).risks.map riskEnds =
      (((build p implementations).edgesOf .uses).filter fun e => e.concreteUsage).map
        CapabilityEdge.ends := by
  have edges : ((build p implementations).edgesOf .uses).filter (fun e => e.concreteUsage) =
      ((kept p implementations).map Usage.edge).filter isConcrete := by
    rw [edgesOf, build_edges_eq]
    exact List.filter_filter
  calc (build p implementations).risks.map riskEnds
      = (kept p implementations).filterMap fun u => u.risk.map riskEnds := by
        rw [build_risks_eq]
        exact List.map_filterMap
    _ = (kept p implementations).filterMap fun u =>
          if isConcrete u.edge then some u.edge.ends else none :=
        List.filterMap_congr fun _ => risk_of_kept
    _ = ((kept p implementations).filter (isConcrete ∘ Usage.edge)).filterMap
          fun u => some u.edge.ends := List.filterMap_filter.symm
    _ = (((kept p implementations).map Usage.edge).filter isConcrete).map CapabilityEdge.ends := by
        rw [List.filter_map, List.map_map, ← List.filterMap_eq_map]
        rfl
    _ = _ := by rw [edges]

/-! ## What fits together -/

/-- The nodes, edges and risks of a capability layer fit the project and one another. -/
structure WellFormed (p : Facts.Project) (g : CapabilityGraph) : Prop where
  /-- No two edges have their kind, their source and their target in common. -/
  apart : (g.edges.map fun e => (e.kind, e.source, e.target)).Nodup
  /-- Edges join nodes. -/
  closed : ∀ e ∈ g.edges,
    (∃ n ∈ g.nodes, n.id = e.source) ∧ ∃ n ∈ g.nodes, n.id = e.target
  /-- Package by package, all interfaces are shown, and then the structs that an edge touches. -/
  shown : g.nodes.map uncounted =
    p.packages.flatMap fun pkg =>
      (pkg.interfaces.map fun t => candidate ⟨pkg, t, .interface⟩) ++
        (pkg.structs.filter fun t =>
            ∃ e ∈ g.edges, e.source = pkg.typeId t ∨ e.target = pkg.typeId t).map
          fun t => candidate ⟨pkg, t, .struct⟩
  /-- A node counts the different sources and the different targets of the edges at its id. -/
  fans : ∀ n ∈ g.nodes,
    n.fanIn = ((g.edges.filter fun e => e.target = n.id).map CapabilityEdge.source).toFinset.card ∧
    n.fanOut = ((g.edges.filter fun e => e.source = n.id).map CapabilityEdge.target).toFinset.card
  /-- The risks are the uses that are marked as those of a concrete type, in order. -/
  risks : g.risks.map (fun r => (r.owner, r.concreteType)) =
    ((g.edgesOf .uses).filter fun e => e.concreteUsage).map fun e => (e.source, e.target)
  /-- Where declared ids are distinct, both sums of counts are the number of pairs that edges join. -/
  balanced : ((Declaration.ofProject p).map Declaration.id).Nodup →
    (g.nodes.map CapabilityNode.fanIn).sum =
      (g.edges.map fun e => (e.source, e.target)).toFinset.card ∧
    (g.nodes.map CapabilityNode.fanOut).sum =
      (g.edges.map fun e => (e.source, e.target)).toFinset.card

theorem closed_build
    (declared : ∀ i ∈ implementations, IsDeclared p i.structId ∧ IsDeclared p i.interfaceId)
    {e : CapabilityEdge} (mem : e ∈ (build p implementations).edges) :
    e.source ∈ (build p implementations).nodes.map CapabilityNode.id ∧
    e.target ∈ (build p implementations).nodes.map CapabilityNode.id := by
  obtain ⟨⟨d, hd, source⟩, d', hd', target⟩ := ends_declared declared mem
  constructor
  · rw [← source]
    exact mem_nodesFor hd (isTouched_iff.mpr ⟨e, mem, Or.inl source.symm⟩)
  · rw [← target]
    exact mem_nodesFor hd' (isTouched_iff.mpr ⟨e, mem, Or.inr target.symm⟩)

/-- Every pair that an edge joins is counted once at its source, and once at its target. -/
theorem sum_fans {g : CapabilityGraph} (distinct : (g.nodes.map CapabilityNode.id).Nodup)
    (closed : ∀ e ∈ g.edges, e.source ∈ g.nodes.map CapabilityNode.id ∧
      e.target ∈ g.nodes.map CapabilityNode.id)
    (fans : ∀ n ∈ g.nodes,
      n.fanIn = ((g.edges.filter fun e => e.target = n.id).map CapabilityEdge.source).toFinset.card ∧
      n.fanOut = ((g.edges.filter fun e => e.source = n.id).map CapabilityEdge.target).toFinset.card) :
    (g.nodes.map CapabilityNode.fanIn).sum = (g.edges.map CapabilityEdge.ends).toFinset.card ∧
    (g.nodes.map CapabilityNode.fanOut).sum = (g.edges.map CapabilityEdge.ends).toFinset.card := by
  constructor
  · have turned : (g.edges.map fun e => (e.target, e.source)).toFinset.card =
        (g.edges.map CapabilityEdge.ends).toFinset.card :=
      card_toFinset_map_congr (fun _ _ => by simp [CapabilityEdge.ends, and_comm]) _
    rw [← turned, ← sum_card_by_label CapabilityEdge.target CapabilityEdge.source distinct
      fun e mem => (closed e mem).2, List.map_map]
    exact congrArg List.sum (List.map_congr_left fun n mem => (fans n mem).1)
  · rw [show CapabilityEdge.ends = fun e => (e.source, e.target) from rfl,
      ← sum_card_by_label CapabilityEdge.source CapabilityEdge.target distinct
        fun e mem => (closed e mem).1, List.map_map]
    exact congrArg List.sum (List.map_congr_left fun n mem => (fans n mem).2)

/-- The capability layer of a project is well formed, with any implementations between types that the
project declares. -/
theorem build_wellFormed (p : Facts.Project) (implementations : List Matching.Implementation)
    (declared : ∀ i ∈ implementations, IsDeclared p i.structId ∧ IsDeclared p i.interfaceId) :
    WellFormed p (build p implementations) where
  apart := by
    rw [build_edges]
    exact nodup_firstBy key _
  closed e mem := by
    obtain ⟨source, target⟩ := closed_build declared mem
    exact ⟨List.mem_map.mp source, List.mem_map.mp target⟩
  shown := by
    simp only [← isTouched_iff, Bool.decide_eq_true]
    exact uncounted_nodesFor p _
  fans n mem := fans_nodesFor mem
  risks := risks_build p implementations
  balanced distinct :=
    sum_fans (ids_nodesFor_nodup distinct) (fun _ mem => closed_build declared mem)
      fun _ mem => fans_nodesFor mem

/-- A struct that implements an interface, holds it and holds itself; one that holds both, one of them
twice; and one that nothing touches. -/
def vault : Facts.Project :=
  let get : Facts.FuncDecl := ⟨"Get", none, [], [], true, default, none⟩
  let type (name : String) (methods : List Facts.FuncDecl) (fields : List String) : Facts.TypeDecl :=
    ⟨name, "p", fields.map fun t => ⟨t, t, false, none⟩, methods, true, default⟩
  { Facts.Project.empty with
    packages := [⟨"p", "p", "", [], [],
      [type "Disk" [get] ["*Disk", "Store"], type "Hub" [] ["p.Store", "*Disk", "[]Disk"],
        type "Spare" [] ["string"]],
      [type "Store" [get] []], []⟩] }

theorem build_wellFormed_vault :
    let found := (Matching.matchHeuristic vault).implementations
    let g := build vault found
    (∀ i ∈ found, IsDeclared vault i.structId ∧ IsDeclared vault i.interfaceId) ∧
    ((Declaration.ofProject vault).map Declaration.id).Nodup ∧
    g.nodes.map CapabilityNode.id = ["p.Store", "p.Disk", "p.Hub"] ∧
    g.edges.length = 5 ∧
    (g.nodes.map CapabilityNode.fanIn).sum = 4 ∧ (g.nodes.map CapabilityNode.fanOut).sum = 4 := by
  intro found g
  have declared : ∀ i ∈ found, IsDeclared vault i.structId ∧ IsDeclared vault i.interfaceId :=
    fun _ => declared_of_grounded (Matching.matchHeuristic_grounded vault)
  have distinct : ((Declaration.ofProject vault).map Declaration.id).Nodup := by decide
  obtain ⟨into, out⟩ := (build_wellFormed vault found declared).balanced distinct
  have pairs : (g.edges.map fun e => (e.source, e.target)).toFinset.card = 4 := by decide
  exact ⟨declared, distinct, by decide, by decide, into.trans pairs, out.trans pairs⟩

end ArchAtlas.CapabilityGraph
