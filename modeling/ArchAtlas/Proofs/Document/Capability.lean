import ArchAtlas.Proofs.CapabilityGraph.Passes
import ArchAtlas.Proofs.Document.Entities

namespace ArchAtlas

def Relation.ends (r : Relation) : String × String := (r.source, r.target)

def CapabilityEdge.ends (e : CapabilityEdge) : String × String := (e.source, e.target)

/-- Where two lists have each a mark of its own, the mark tells the lists apart. -/
theorem filter_append_marked {α τ : Type} [DecidableEq τ] (mark : α → τ) {m n : τ} {xs ys : List α}
    (apart : m ≠ n) (left : ∀ x ∈ xs, mark x = m) (right : ∀ y ∈ ys, mark y = n) :
    ((xs ++ ys).filter fun x => mark x = m) = xs ∧
      ((xs ++ ys).filter fun x => mark x = n) = ys := by
  rw [List.filter_append, List.filter_append]
  constructor
  · rw [List.filter_eq_self.mpr fun x mem => by simpa using left x mem,
      List.filter_eq_nil_iff.mpr fun y mem => by simpa [right y mem] using Ne.symm apart,
      List.append_nil]
  · rw [List.filter_eq_nil_iff.mpr fun x mem => by simpa [left x mem] using apart,
      List.filter_eq_self.mpr fun y mem => by simpa using right y mem, List.nil_append]

theorem filter_relations (type : RelationType) (rs : List Relation) :
    ((firstBy Relation.key rs).filter fun r => r.type = type) =
      firstBy Relation.key (rs.filter fun r => r.type = type) := by
  apply filter_firstBy
  intro x y same
  simp only [Relation.key, Prod.mk.injEq] at same
  rw [same.2.2]

theorem ends_relations (type : RelationType) (rs : List Relation) :
    ((firstBy Relation.key rs).filter fun r => r.type = type).map Relation.ends =
      ((rs.filter fun r => r.type = type).map Relation.ends).eraseDups := by
  rw [filter_relations]
  apply map_firstBy_of_told
  intro x hx y hy
  have types : x.type = y.type := by
    simp only [List.mem_filter, decide_eq_true_eq] at hx hy
    rw [hx.2, hy.2]
  simp [Relation.ends, Relation.key, types]

namespace CapabilityGraph

/-- Edges of one kind, and such a choice of them as their ends make. -/
theorem ends_edges (kind : CapabilityEdgeKind) (chosen : String × String → Bool)
    (es : List CapabilityEdge) :
    (((firstBy key es).filter fun e => e.kind = kind).filter fun e => chosen e.ends).map
        CapabilityEdge.ends =
      (((es.filter fun e => e.kind = kind).map CapabilityEdge.ends).filter chosen).eraseDups := by
  rw [List.filter_map, List.filter_filter, List.filter_filter, filter_firstBy]
  · apply map_firstBy_of_told
    intro x hx y hy
    have kinds : x.kind = y.kind := by
      simp only [List.mem_filter, Bool.and_eq_true, decide_eq_true_eq] at hx hy
      rw [hx.2.2, hy.2.2]
    simp [CapabilityEdge.ends, key, kinds]
  · intro x y same
    simp only [key, Prod.mk.injEq] at same
    obtain ⟨kinds, sources, targets⟩ := same
    simp only [CapabilityEdge.ends, kinds, sources, targets]

theorem build_edges (p : Facts.Project) (implementations : List Matching.Implementation) :
    (build p implementations).edges =
      firstBy key (implementations.map implementsEdge ++ (usages p).map Usage.edge) := by
  rw [build_edges_eq, kept, firstBy_map, List.map_append, List.map_map]
  rfl

/-- What a field makes a use of: a type that the project declares, in another place or in this. -/
theorem mem_usages {p : Facts.Project} {u : Usage} (h : u ∈ usages p) :
    ∃ pkg ∈ p.packages, ∃ s ∈ pkg.structs, ∃ f ∈ s.fields,
      (TypeIndex.build p).resolve? pkg.path f.typeName = some u.edge.target ∧
      u.edge.kind = .uses ∧ u.edge.source = pkg.typeId s ∧
      u.edge.concreteUsage = (TypeIndex.build p).isStruct u.edge.target := by
  simp only [usages, List.mem_flatMap, List.mem_filterMap, usage?, Option.map_eq_some_iff] at h
  obtain ⟨pkg, hp, s, hs, f, hf, target, found, rfl⟩ := h
  exact ⟨pkg, hp, s, hs, f, hf, found, rfl, rfl, rfl⟩

end CapabilityGraph

namespace Document

/-- What a field makes a composition of: another type that the project declares. -/
theorem mem_compositions {p : Facts.Project} {r : Relation} (h : r ∈ compositions p) :
    ∃ pkg ∈ p.packages, ∃ s ∈ pkg.structs, ∃ f ∈ s.fields,
      (TypeIndex.build p).resolve? pkg.path f.typeName = some r.target ∧
      r.target ≠ pkg.typeId s ∧
      r = .explicit (pkg.typeId s ++ "-composition-" ++ r.target) .composition (pkg.typeId s)
        r.target := by
  simp only [compositions, List.mem_flatMap, List.mem_filterMap] at h
  obtain ⟨pkg, hp, s, hs, f, hf, made⟩ := h
  simp only [composition?] at made
  split at made
  · rename_i target found
    split at made
    · cases made
    · rename_i apart
      cases made
      exact ⟨pkg, hp, s, hs, f, hf, found, apart, rfl⟩
  · cases made

/-- A field makes a composition where it makes a use, unless that is a use of its own type. -/
theorem ends_composition? (index : TypeIndex) (p : Facts.Package) (s : Facts.TypeDecl)
    (f : Facts.FieldDecl) :
    (composition? index p s f).map Relation.ends =
      (((CapabilityGraph.usage? index p s f).map CapabilityGraph.Usage.edge).map
        CapabilityEdge.ends).filter fun e => e.1 ≠ e.2 := by
  unfold composition? CapabilityGraph.usage?
  cases index.resolve? p.path f.typeName with
  | none => rfl
  | some target =>
    by_cases self : target = p.typeId s
    · simp [self, CapabilityEdge.ends, Option.filter_some]
    · simp [self, Ne.symm self, CapabilityEdge.ends, Relation.ends, Relation.explicit,
        Option.filter_some]

theorem ends_compositions (p : Facts.Project) :
    (compositions p).map Relation.ends =
      (((CapabilityGraph.usages p).map CapabilityGraph.Usage.edge).map CapabilityEdge.ends).filter
        fun e => e.1 ≠ e.2 := by
  simp only [compositions, CapabilityGraph.usages, List.map_flatMap, List.filter_flatMap,
    List.map_filterMap, List.filter_filterMap, ends_composition?]

theorem relations_by_type (p : Facts.Project) (implementations : List Matching.Implementation) :
    let made := implementations.map ofImplementation ++ compositions p
    (made.filter fun r => r.type = .implementation) = implementations.map ofImplementation ∧
    (made.filter fun r => r.type = .composition) = compositions p := by
  apply filter_append_marked Relation.type (by decide)
  · intro r mem
    obtain ⟨i, -, rfl⟩ := List.mem_map.mp mem
    rfl
  · intro r mem
    obtain ⟨_, -, _, -, _, -, -, -, made⟩ := mem_compositions mem
    rw [made, Relation.explicit]

end Document

theorem CapabilityGraph.edges_by_kind (p : Facts.Project)
    (implementations : List Matching.Implementation) :
    let made := implementations.map implementsEdge ++ (usages p).map Usage.edge
    (made.filter fun e => e.kind = .implements) = implementations.map implementsEdge ∧
    (made.filter fun e => e.kind = .uses) = (usages p).map Usage.edge := by
  apply filter_append_marked CapabilityEdge.kind (by decide)
  · intro e mem
    obtain ⟨i, -, rfl⟩ := List.mem_map.mp mem
    rfl
  · intro e mem
    obtain ⟨u, hu, rfl⟩ := List.mem_map.mp mem
    obtain ⟨_, -, _, -, _, -, -, kind, -⟩ := mem_usages hu
    exact kind

namespace Document

open CapabilityGraph (build edgesOf)

section

variable {timestamp : String} {p : Facts.Project} {implementations : List Matching.Implementation}
variable {d : Document}

theorem implementations_agree (h : ofProject timestamp p implementations = .ok d) :
    (d.relations.filter fun r => r.type = .implementation).map Relation.ends =
      ((build p implementations).edgesOf .implements).map CapabilityEdge.ends := by
  obtain ⟨-, relations, -⟩ := ofProject_eq_ok h
  have edges := CapabilityGraph.ends_edges .implements (fun _ => true)
    (implementations.map CapabilityGraph.implementsEdge ++
      (CapabilityGraph.usages p).map CapabilityGraph.Usage.edge)
  simp only [List.filter_true] at edges
  rw [relations, ends_relations, (relations_by_type p implementations).1, edgesOf,
    CapabilityGraph.build_edges, edges, (CapabilityGraph.edges_by_kind p implementations).1,
    List.map_map, List.map_map]
  rfl

theorem compositions_agree (h : ofProject timestamp p implementations = .ok d) :
    (d.relations.filter fun r => r.type = .composition).map Relation.ends =
      (((build p implementations).edgesOf .uses).filter fun e => e.source ≠ e.target).map
        CapabilityEdge.ends := by
  obtain ⟨-, relations, -⟩ := ofProject_eq_ok h
  have edges := CapabilityGraph.ends_edges .uses (fun e => e.1 ≠ e.2)
    (implementations.map CapabilityGraph.implementsEdge ++
      (CapabilityGraph.usages p).map CapabilityGraph.Usage.edge)
  rw [relations, ends_relations, (relations_by_type p implementations).2, ends_compositions, edgesOf,
    CapabilityGraph.build_edges]
  rw [(CapabilityGraph.edges_by_kind p implementations).2] at edges
  exact edges.symm

/-- The target of a use is an entity, and the index knows its kind. -/
theorem concreteUsage_iff (h : ofProject timestamp p implementations = .ok d) {e : CapabilityEdge}
    (mem : e ∈ (build p implementations).edgesOf .uses) :
    ∃ x, d.entity? e.target = some x ∧ (e.concreteUsage = true ↔ x.kind = .struct) := by
  obtain ⟨entities, -, distinct⟩ := ofProject_eq_ok h
  obtain ⟨kept, uses⟩ := List.mem_filter.mp mem
  rw [CapabilityGraph.build_edges] at kept
  rcases List.mem_append.mp (mem_of_mem_firstBy kept) with made | made
  · obtain ⟨i, -, rfl⟩ := List.mem_map.mp made
    cases uses
  · obtain ⟨u, hu, rfl⟩ := List.mem_map.mp made
    obtain ⟨pkg, -, s, -, f, -, found, -, -, concrete⟩ := CapabilityGraph.mem_usages hu
    obtain ⟨first, declared, id⟩ := TypeIndex.resolve?_declared found
    obtain ⟨decl, declared, same, kind⟩ := TypeIndex.kind?_declared declared
    rw [id] at same kind
    have listed : ofDeclaration decl ∈ d.entities := entities ▸ mem_entities.mpr ⟨decl, declared, rfl⟩
    refine ⟨ofDeclaration decl, same ▸ entity?_id distinct listed, ?_⟩
    rw [concrete, TypeIndex.isStruct, kind]
    cases declKind : decl.kind <;> simp [ofDeclaration, ofType, kindOf, declKind]

end

/-- The document of a project and its capability layer agree: they show the same implementations and the
same compositions, in the same order, a use that a type makes of itself apart; and a use is marked as one
of a concrete type exactly when the entity that it leads to is a struct. -/
theorem ofProject_agrees_with_capability (timestamp : String) (p : Facts.Project)
    (implementations : List Matching.Implementation) (d : Document)
    (h : ofProject timestamp p implementations = .ok d) :
    let g := build p implementations
    (d.relations.filter fun r => r.type = .implementation).map Relation.ends =
      (g.edgesOf .implements).map CapabilityEdge.ends ∧
    (d.relations.filter fun r => r.type = .composition).map Relation.ends =
      ((g.edgesOf .uses).filter fun e => e.source ≠ e.target).map CapabilityEdge.ends ∧
    ∀ e ∈ g.edgesOf .uses,
      ∃ x, d.entity? e.target = some x ∧ (e.concreteUsage = true ↔ x.kind = .struct) :=
  ⟨implementations_agree h, compositions_agree h, fun _ => concreteUsage_iff h⟩

/-- A struct that holds an interface and, twice, the struct that implements it and holds itself. -/
def storeHub : Facts.Project :=
  let get : Facts.FuncDecl := ⟨"Get", none, [], [], true, default, none⟩
  let type (name : String) (methods : List Facts.FuncDecl) (fields : List String) : Facts.TypeDecl :=
    ⟨name, "p", fields.map fun t => ⟨t, t, false, none⟩, methods, true, default⟩
  { Facts.Project.empty with
    packages := [⟨"p", "p", "", [], [],
      [type "Disk" [get] ["*Disk"], type "Hub" [] ["p.Store", "*Disk", "[]Disk"]],
      [type "Store" [get] []], []⟩] }

theorem ofProject_agrees_with_capability_storeHub :
    ∃ d, ofProject "T" storeHub (Matching.matchHeuristic storeHub).implementations = .ok d ∧
      (d.relations.filter fun r => r.type = .implementation).map Relation.ends =
        [("p.Disk", "p.Store")] ∧
      (d.relations.filter fun r => r.type = .composition).map Relation.ends =
        [("p.Hub", "p.Store"), ("p.Hub", "p.Disk")] ∧
      ∃ x, d.entity? "p.Disk" = some x ∧ x.kind = .struct := by
  obtain ⟨d, made⟩ : ∃ d, ofProject "T" storeHub
    (Matching.matchHeuristic storeHub).implementations = .ok d := ⟨_, rfl⟩
  obtain ⟨implementations, compositions, concrete⟩ :=
    ofProject_agrees_with_capability "T" storeHub _ d made
  have self : ∃ e ∈ (build storeHub (Matching.matchHeuristic storeHub).implementations).edgesOf .uses,
      e.target = "p.Disk" ∧ e.concreteUsage = true := by
    decide
  obtain ⟨e, mem, target, flagged⟩ := self
  obtain ⟨x, found, kind⟩ := concrete e mem
  exact ⟨d, made, implementations.trans (by decide), compositions.trans (by decide), x,
    target ▸ found, kind.mp flagged⟩

end Document

end ArchAtlas
