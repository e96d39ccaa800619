import ArchAtlas.Engine
import ArchAtlas.Proofs.Document.Capability
import ArchAtlas.Proofs.Matching.Grounded
import Mathlib.Data.List.Perm.Basic

namespace ArchAtlas

open Matching (structs interfaces TypeRef Implementation Grounded)

namespace Document

/-- A relation from a struct among the entities to another type among them; that of an implementation
leads to an interface that has methods. -/
structure Joins (entities : List Entity) (r : Relation) : Prop where
  source : ∃ e ∈ entities, e.id = r.source ∧ e.kind = .struct
  target : ∃ e ∈ entities, e.id = r.target
  implemented : r.type = .implementation →
    ∃ e ∈ entities, e.id = r.target ∧ e.kind = .interface ∧ ∃ m ∈ e.members, m.kind = .method
  apart : r.source ≠ r.target

/-- A document without entities of one id, whose relations join its entities, each once for its type. -/
structure Closed (d : Document) : Prop where
  ids : (d.entities.map Entity.id).Nodup
  joins : ∀ r ∈ d.relations, Joins d.entities r
  once : (d.relations.map Relation.key).Nodup

/-- A document whose relations of type implementation are the given implementations, in order, and say
which strategy found them; its compositions are explicit, and it has no other relations. -/
structure Records (d : Document) (implementations : List Implementation) : Prop where
  implementations : List.Forall₂ (fun m r =>
      r.source = m.structId ∧ r.target = m.interfaceId ∧
      (m.strategy = .oracle → r.inferenceSource = .oracle) ∧
      (m.strategy = .heuristic → r.inferenceSource = .inferred))
    implementations (d.relations.filter fun r => r.type = .implementation)
  compositions : ∀ r ∈ d.relations, r.type = .composition → r.inferenceSource = .explicit
  types : ∀ r ∈ d.relations, r.type = .implementation ∨ r.type = .composition

/-! ## Entities and what matching knows -/

section

variable {p : Facts.Project}

theorem ids_perm :
    ((structs p).map TypeRef.id ++ (interfaces p).map TypeRef.id).Perm
      ((p.packages.flatMap ofPackage).map Entity.id) := by
  simp only [structs, interfaces, ofPackage, List.map_flatMap, List.map_append, List.map_map]
  exact List.flatMap_append_perm _ _ _

theorem exists_struct {s : TypeRef} (h : s ∈ structs p) :
    ∃ e ∈ p.packages.flatMap ofPackage, e.id = s.id ∧ e.kind = .struct := by
  obtain ⟨pkg, hp, mem⟩ := List.mem_flatMap.mp h
  obtain ⟨t, ht, rfl⟩ := List.mem_map.mp mem
  exact ⟨_, mem_entities.mpr ⟨⟨pkg, t, .struct⟩, Declaration.mem_ofProject.mpr ⟨hp, ht⟩, rfl⟩, rfl, rfl⟩

theorem exists_interface {i : TypeRef} (h : i ∈ interfaces p) (methods : i.type.methods ≠ []) :
    ∃ e ∈ p.packages.flatMap ofPackage, e.id = i.id ∧ e.kind = .interface ∧
      ∃ m ∈ e.members, m.kind = .method := by
  obtain ⟨pkg, hp, mem⟩ := List.mem_flatMap.mp h
  obtain ⟨t, ht, rfl⟩ := List.mem_map.mp mem
  obtain ⟨f, hf⟩ := List.exists_mem_of_ne_nil _ methods
  refine ⟨_, mem_entities.mpr ⟨⟨pkg, t, .interface⟩, Declaration.mem_ofProject.mpr ⟨hp, ht⟩, rfl⟩, rfl,
    rfl, ofMethod true f, ?_, rfl⟩
  exact List.mem_append_right _ (List.mem_map_of_mem hf)

end

/-! ## The document of grounded implementations -/

section

variable {timestamp : String} {p : Facts.Project} {implementations : List Implementation}
variable {d : Document}

/-- A relation stems from an implementation or from a field. -/
theorem mem_relations (h : ofProject timestamp p implementations = .ok d) {r : Relation}
    (mem : r ∈ d.relations) :
    (∃ m ∈ implementations, ofImplementation m = r) ∨ r ∈ compositions p := by
  obtain ⟨-, relations, -⟩ := ofProject_eq_ok h
  rw [relations] at mem
  rcases List.mem_append.mp (mem_of_mem_firstBy mem) with made | made
  · exact Or.inl (List.mem_map.mp made)
  · exact Or.inr made

theorem struct_id_ne_interface_id (distinct : ((p.packages.flatMap ofPackage).map Entity.id).Nodup)
    {s i : TypeRef} (hs : s ∈ structs p) (hi : i ∈ interfaces p) : s.id ≠ i.id := by
  have ids := ids_perm.nodup_iff.mpr distinct
  exact (List.nodup_append.mp ids).2.2 _ (List.mem_map_of_mem hs) _ (List.mem_map_of_mem hi)

theorem ofImplementation_joins (grounded : Grounded p implementations)
    (distinct : ((p.packages.flatMap ofPackage).map Entity.id).Nodup) {m : Implementation}
    (mem : m ∈ implementations) : Joins (p.packages.flatMap ofPackage) (ofImplementation m) := by
  obtain ⟨s, hs, i, hi, methods, ends⟩ := grounded.declared m mem
  obtain ⟨source, target⟩ := Prod.mk.inj ends
  obtain ⟨x, listed, id, struct⟩ := exists_struct hs
  obtain ⟨y, listed', id', shape⟩ := exists_interface hi methods
  have leads : y.id = m.interfaceId := id'.trans target.symm
  refine ⟨⟨x, listed, id.trans source.symm, struct⟩, ⟨y, listed', leads⟩,
    fun _ => ⟨y, listed', leads, shape⟩, ?_⟩
  change m.structId ≠ m.interfaceId
  rw [source, target]
  exact struct_id_ne_interface_id distinct hs hi

theorem composition_explicit {r : Relation} (mem : r ∈ compositions p) :
    r.type = .composition ∧ r.inferenceSource = .explicit := by
  obtain ⟨pkg, -, s, -, f, -, -, -, made⟩ := mem_compositions mem
  rw [made, Relation.explicit]
  exact ⟨rfl, rfl⟩

theorem composition_joins {r : Relation} (mem : r ∈ compositions p) :
    Joins (p.packages.flatMap ofPackage) r := by
  obtain ⟨pkg, hp, s, hs, f, -, found, apart, made⟩ := mem_compositions mem
  obtain ⟨decl, declared, id⟩ := TypeIndex.resolve?_declared found
  have listed : ⟨pkg, s, .struct⟩ ∈ Declaration.ofProject p := Declaration.mem_ofProject.mpr ⟨hp, hs⟩
  have source : r.source = pkg.typeId s := by rw [made, Relation.explicit]
  refine ⟨⟨_, mem_entities.mpr ⟨_, listed, rfl⟩, source.symm, rfl⟩,
    ⟨_, mem_entities.mpr ⟨decl, declared, rfl⟩, id⟩, ?_, source ▸ apart.symm⟩
  intro type
  rw [(composition_explicit mem).1] at type
  cases type

theorem ofProject_closed (grounded : Grounded p implementations)
    (h : ofProject timestamp p implementations = .ok d) : Closed d := by
  obtain ⟨entities, relations, distinct⟩ := ofProject_eq_ok h
  refine ⟨distinct, ?_, relations ▸ nodup_firstBy _ _⟩
  intro r mem
  rw [entities] at distinct ⊢
  obtain ⟨m, hm, rfl⟩ | made := mem_relations h mem
  · exact ofImplementation_joins grounded distinct hm
  · exact composition_joins made

theorem ofProject_records (grounded : Grounded p implementations)
    (h : ofProject timestamp p implementations = .ok d) : Records d implementations := by
  obtain ⟨entities, relations, distinct⟩ := ofProject_eq_ok h
  have ids := ids_perm.nodup_iff.mpr (entities ▸ distinct)
  have ends := grounded.once (List.nodup_append.mp ids).1 (List.nodup_append.mp ids).2.1
  have keys : ((implementations.map ofImplementation).map Relation.key).Nodup := by
    rw [List.Nodup, List.pairwise_map] at ends
    rw [List.Nodup, List.map_map, List.pairwise_map]
    apply ends.imp
    intro m m' apart same
    obtain ⟨sources, rest⟩ := Prod.mk.inj same
    exact apart (Prod.ext sources (Prod.mk.inj rest).1)
  have kept : (d.relations.filter fun r => r.type = .implementation) =
      implementations.map ofImplementation := by
    rw [relations, filter_relations, (relations_by_type p implementations).1, firstBy_of_nodup keys]
  refine ⟨?_, ?_, ?_⟩
  · rw [kept, List.forall₂_map_right_iff, List.forall₂_same]
    intro m _
    refine ⟨rfl, rfl, fun strategy => ?_, fun strategy => ?_⟩
    · exact congrArg Matching.Strategy.source strategy
    · exact congrArg Matching.Strategy.source strategy
  · intro r mem type
    obtain ⟨m, -, rfl⟩ | made := mem_relations h mem
    · cases type
    · exact (composition_explicit made).2
  · intro r mem
    obtain ⟨m, -, rfl⟩ | made := mem_relations h mem
    · exact Or.inl rfl
    · exact Or.inr (composition_explicit made).1

end

end Document

namespace Engine

theorem matchWith_grounded (e : Engine) (p : Facts.Project) (oracle : Option Matching.Oracle)
    (w : Matching.World) : Grounded p (e.matchWith p oracle w).1.implementations := by
  cases oracle with
  | none => exact Matching.matchHeuristic_grounded p
  | some oracle => exact Matching.matchWithOracle_grounded _ oracle p w

/-- The metrics and the atlas are put into the document; its entities and relations stay. -/
theorem documentOf_closed {e : Engine} {stamp : Stamp} {p : Facts.Project} {m : Matching.Matched}
    {d : Document} (grounded : Grounded p m.implementations) (h : e.documentOf stamp p m = .ok d) :
    d.Closed ∧ d.Records m.implementations := by
  unfold documentOf at h
  split at h
  · cases h
  · rename_i made ok
    cases h
    obtain ⟨ids, joins, once⟩ := Document.ofProject_closed grounded ok
    obtain ⟨implementations, compositions, types⟩ := Document.ofProject_records grounded ok
    exact ⟨⟨ids, joins, once⟩, ⟨implementations, compositions, types⟩⟩

/-- A document that the engine makes, with any oracle or none, is closed, and its implementations are
those that were matched. -/
theorem analysis_is_closed (e : Engine) (stamp : Stamp) (p : Facts.Project) :
    (∀ d, e.analyze stamp p = .ok d →
      d.Closed ∧ d.Records (Matching.matchHeuristic p).implementations) ∧
    ∀ oracle w d, (e.analyzeWith stamp p oracle w).1 = .ok d →
      d.Closed ∧ d.Records (e.matchWith p oracle w).1.implementations := by
  constructor
  · intro d made
    exact documentOf_closed (Matching.matchHeuristic_grounded p) made
  · intro oracle w d made
    exact documentOf_closed (e.matchWith_grounded p oracle w) made

/-- The engine with the default configuration, but for noise: no call is left out. -/
def plain : Engine :=
  let flow := { Config.Flow.default with noise := .disabled }
  ⟨{ Config.default with flow }, ⟨flow, ⟨.disabled, []⟩⟩⟩

/-- The circle is found by the oracle and the square by its methods; the document tells them apart. -/
theorem analysis_is_closed_twoShapes :
    let stamp : Stamp := ⟨default, 0, "T"⟩
    ∃ d, (plain.analyzeWith stamp Matching.twoShapes (some Matching.knowsCircle) .initial).1 = .ok d ∧
      d.Closed ∧
      (d.relations.filter fun r => r.type = .implementation).map Relation.inferenceSource =
        [.oracle, .inferred] := by
  intro stamp
  obtain ⟨d, made⟩ : ∃ d, (plain.analyzeWith stamp Matching.twoShapes (some Matching.knowsCircle)
    .initial).1 = .ok d := ⟨_, rfl⟩
  obtain ⟨closed, records⟩ := (analysis_is_closed plain stamp Matching.twoShapes).2 _ _ d made
  refine ⟨d, made, closed, ?_⟩
  obtain ⟨implementations, -, -⟩ := records
  have found : (plain.matchWith Matching.twoShapes (some Matching.knowsCircle)
      .initial).1.implementations =
        Matching.matchEach plain.config.oracle.policy.confidence [(0, 0)]
          (Matching.structs Matching.twoShapes) (Matching.interfaces Matching.twoShapes) :=
    Matching.combine_implementations (by decide) (by decide)
  rw [found] at implementations
  generalize (d.relations.filter fun r => r.type = .implementation) = rs at implementations ⊢
  cases implementations with
  | cons first rest =>
    cases rest with
    | cons second rest =>
      cases rest
      rw [List.map_cons, List.map_cons, first.2.2.1 rfl, second.2.2.2 rfl]
      rfl

end Engine

end ArchAtlas
