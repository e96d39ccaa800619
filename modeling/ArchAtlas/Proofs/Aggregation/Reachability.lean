import ArchAtlas.Proofs.Aggregation.Partition
import ArchAtlas.Proofs.Metrics

namespace ArchAtlas.Aggregation

open ArchAtlas.Graph (Mutual)
open Metrics (Linked countComponents)

section

variable {a : Config.Aggregation} {d : Document}

theorem owner?_id (distinct : (d.entities.map Entity.id).Nodup) {e : Entity} (mem : e ∈ d.entities) :
    owner? a d e.id = some (a.packageOf e) := by
  rw [owner?, Document.entity?, find?_of_nodup distinct mem, Option.map_some]

def packageNamed (a : Config.Aggregation) (d : Document) (id : String) : String :=
  (owner? a d id).getD ""

theorem packageNamed_id (distinct : (d.entities.map Entity.id).Nodup) {e : Entity}
    (mem : e ∈ d.entities) : packageNamed a d e.id = a.packageOf e := by
  rw [packageNamed, owner?_id distinct mem, Option.getD_some]

/-- A relation between entities leads from package to package, unless it lies within one. -/
theorem linked_packages (distinct : (d.entities.map Entity.id).Nodup) {x y : String}
    (h : Linked d.entities d.relations x y) :
    Relation.ReflTransGen (Linked (packageEntities a d) (packageRelations a d))
      (packageNamed a d x) (packageNamed a d y) := by
  obtain ⟨known, known', r, mem, source, target⟩ := h
  obtain ⟨u, hu, rfl⟩ := List.mem_map.mp known
  obtain ⟨v, hv, rfl⟩ := List.mem_map.mp known'
  rw [packageNamed_id distinct hu, packageNamed_id distinct hv]
  by_cases same : a.packageOf u = a.packageOf v
  · rw [same]
  · have crosses : crossing? a d r = some (a.packageOf u, a.packageOf v, r.type) := by
      rw [crossing?_eq_some, Joins, source, target]
      exact ⟨same, owner?_id distinct hu, owner?_id distinct hv, rfl⟩
    obtain ⟨f, folded, key⟩ := List.mem_map.mp
      (((folds_packageRelations a d).key_iff _).mpr ⟨r, mem, crosses⟩)
    obtain ⟨source, target, -⟩ : f.source = _ ∧ f.target = _ ∧ f.type = _ := by
      simpa [Relation.key] using key
    exact .single ⟨mem_package_ids.mpr ⟨u, hu, rfl⟩, mem_package_ids.mpr ⟨v, hv, rfl⟩, f, folded,
      source, target⟩

def firstIn (a : Config.Aggregation) (d : Document) (package : String) : String :=
  ((d.entities.find? fun e => a.packageOf e = package).map Entity.id).getD ""

theorem firstIn_mem {x : String} (package : x ∈ (packageEntities a d).map Entity.id) :
    ∃ e ∈ d.entities, a.packageOf e = x ∧ firstIn a d x = e.id := by
  obtain ⟨e, mem, holds⟩ := mem_package_ids.mp package
  obtain ⟨e', found⟩ := Option.isSome_iff_exists.mp
    ((List.find?_isSome (p := fun e => decide (a.packageOf e = x))).mpr
      ⟨e, mem, decide_eq_true holds⟩)
  refine ⟨e', List.mem_of_find?_eq_some found, by simpa using List.find?_some found, ?_⟩
  rw [firstIn, found, Option.map_some, Option.getD_some]

/-- Packages that lie apart have entities that do, so that packages have no more components. -/
theorem countComponents_packages_le (distinct : (d.entities.map Entity.id).Nodup) :
    countComponents (packageEntities a d) (packageRelations a d) ≤
      countComponents d.entities d.relations := by
  refine Metrics.countComponents_le (firstIn a d) ?_ ?_
  · intro p hp
    obtain ⟨e, he, -, first⟩ := firstIn_mem hp
    exact first ▸ List.mem_map_of_mem he
  · intro p hp q hq both
    obtain ⟨e, he, rfl, first⟩ := firstIn_mem hp
    obtain ⟨e', he', rfl, first'⟩ := firstIn_mem hq
    rw [first, first'] at both
    have := both.lift (packageNamed a d) fun _ _ => linked_packages distinct
    rwa [packageNamed_id distinct he, packageNamed_id distinct he'] at this

end

/-- Where one entity is reachable from another, its package is reachable from the other's package. So
there are no more components at package level than at the level of entities, and as many there as at
method level. -/
theorem package_level_keeps_reachability (a : Config.Aggregation) (d : Document)
    (distinct : (d.entities.map Entity.id).Nodup) :
    (∀ u ∈ d.entities, ∀ v ∈ d.entities,
      Relation.ReflTransGen (Linked d.entities d.relations) u.id v.id →
      Relation.ReflTransGen
        (Linked (aggregate a d .package).entities (aggregate a d .package).relations)
        (a.packageOf u) (a.packageOf v)) ∧
    ∃ method entity package : Metrics,
      (aggregate a d .method).metrics = some method ∧
      (aggregate a d .entity).metrics = some entity ∧
      (aggregate a d .package).metrics = some package ∧
      package.components ≤ entity.components ∧ entity.components = method.components := by
  constructor
  · intro u hu v hv path
    have lifted := Relation.ReflTransGen.lift' (packageNamed a d)
      (fun _ _ => linked_packages distinct) _ _ path
    rw [← packageNamed_id distinct hu, ← packageNamed_id distinct hv]
    exact lifted
  · have same : countComponents (d.entities.map publicView) d.relations =
        countComponents d.entities d.relations := by
      have ids : (d.entities.map publicView).map Entity.id = d.entities.map Entity.id := by
        rw [List.map_map]
        rfl
      rw [countComponents, countComponents, Metrics.nodes, Metrics.nodes, ids]
    refine ⟨_, _, _, rfl, rfl, rfl, ?_, same⟩
    exact (countComponents_packages_le distinct).trans_eq same.symm

theorem package_level_keeps_reachability_twoPackages :
    (twoPackages.entities.map Entity.id).Nodup ∧
    Relation.ReflTransGen
      (Linked (aggregate .default twoPackages .package).entities
        (aggregate .default twoPackages .package).relations) "a" "b" := by
  have distinct : (twoPackages.entities.map Entity.id).Nodup := by decide
  refine ⟨distinct, ?_⟩
  have path : Relation.ReflTransGen (Linked twoPackages.entities twoPackages.relations) "a.X" "b.Z" :=
    .single (by decide)
  exact (package_level_keeps_reachability .default twoPackages distinct).1
    ⟨"a.X", "a.X", .struct, .exposed, [], ⟨"", 1, 1⟩⟩ (by decide)
    ⟨"b.Z", "b.Z", .struct, .exposed, [], ⟨"", 1, 1⟩⟩ (by decide) path

end ArchAtlas.Aggregation
