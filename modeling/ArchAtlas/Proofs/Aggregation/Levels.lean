import ArchAtlas.Aggregation
import ArchAtlas.Proofs.Distinct

namespace ArchAtlas

namespace Metrics

/-- Metrics read nothing of an entity but its id. -/
theorem compute_congr {entities entities' : List Entity}
    (ids : entities.map Entity.id = entities'.map Entity.id) (relations : List Relation)
    (level : Level) : compute entities relations level = compute entities' relations level := by
  have size : entities.length = entities'.length := by simpa using congrArg List.length ids
  simp only [compute, countComponents, nodes, ids, size]

end Metrics

namespace Aggregation

/-! ## What folding reads -/

/-- An entity reduced to its id and its place. -/
def outline (e : Entity) : Entity :=
  ⟨e.id, "", .package, .exposed, [], e.location⟩

/-- Two documents have entities of the same ids at the same places, in order, and the same relations. -/
structure SameOutline (d d' : Document) : Prop where
  entities : d.entities.map outline = d'.entities.map outline
  relations : d.relations = d'.relations

section

variable (a : Config.Aggregation)

theorem packages_outline (entities : List Entity) :
    (firstBy a.packageOf (entities.map outline)).map (packageEntity a) =
      (firstBy a.packageOf entities).map (packageEntity a) := by
  rw [← firstBy_map, List.map_map]
  rfl

theorem owner?_outline (entities : List Entity) (id : String) :
    ((entities.map outline).find? fun e => e.id = id).map a.packageOf =
      (entities.find? fun e => e.id = id).map a.packageOf := by
  rw [List.find?_map, Option.map_map]
  rfl

variable {a} {d d' : Document}

theorem SameOutline.ids (same : SameOutline d d') :
    d.entities.map Entity.id = d'.entities.map Entity.id := by
  have ids := congrArg (List.map Entity.id) same.entities
  rw [List.map_map, List.map_map] at ids
  exact ids

theorem SameOutline.packageEntities (same : SameOutline d d') :
    packageEntities a d = packageEntities a d' := by
  unfold Aggregation.packageEntities
  rw [← packages_outline a d.entities, ← packages_outline a d'.entities, same.entities]

theorem SameOutline.owner? (same : SameOutline d d') (id : String) :
    owner? a d id = owner? a d' id := by
  unfold Aggregation.owner? Document.entity?
  rw [← owner?_outline a d.entities, ← owner?_outline a d'.entities, same.entities]

theorem SameOutline.packageRelations (same : SameOutline d d') :
    packageRelations a d = packageRelations a d' := by
  have lifted : lift? a d = lift? a d' := by
    funext r
    simp only [lift?, same.owner?]
  unfold Aggregation.packageRelations
  rw [same.relations, lifted]

end

/-! ## Levels one after another -/

/-- The document with its metrics given for another level. -/
def releveled (d : Document) (level : Level) : Document :=
  { d with metrics := d.metrics.map fun m => { m with level } }

/-- An entity without its members that are not public. -/
structure PublicPart (e part : Entity) : Prop where
  rest : part = { e with members := part.members }
  members : part.members = e.members.filter fun m => m.visibility = .exposed

section

variable (a : Config.Aggregation) (d : Document)

theorem metrics_aggregate (level : Level) :
    (aggregate a d level).metrics = some (Metrics.compute (aggregate a d level).entities
      (aggregate a d level).relations level) := by
  cases level <;> rfl

/-- Metrics of a view for another level are those of its entities and relations. -/
theorem releveled_aggregate (level level' : Level) :
    releveled (aggregate a d level) level' =
      { aggregate a d level with
        metrics := some (Metrics.compute (aggregate a d level).entities
          (aggregate a d level).relations level') } := by
  rw [releveled, metrics_aggregate]
  rfl

theorem sameOutline_entity : SameOutline (aggregate a d .entity) d := by
  refine ⟨?_, rfl⟩
  change (d.entities.map publicView).map outline = d.entities.map outline
  rw [List.map_map]
  rfl

theorem publicView_publicView (e : Entity) : publicView (publicView e) = publicView e := by
  simp [publicView]

theorem aggregate_entity_entity :
    aggregate a (aggregate a d .entity) .entity = aggregate a d .entity := by
  have entities : (d.entities.map publicView).map publicView = d.entities.map publicView := by
    simp only [List.map_map, Function.comp_def, publicView_publicView]
  simp only [aggregate, entities]

theorem aggregate_entity_package :
    aggregate a (aggregate a d .entity) .package = aggregate a d .package := by
  have same := sameOutline_entity a d
  have entities : packageEntities a (aggregate a d .entity) = packageEntities a d :=
    same.packageEntities
  have relations : packageRelations a (aggregate a d .entity) = packageRelations a d :=
    same.packageRelations
  unfold aggregate at entities relations ⊢
  simp only [entities, relations]

/-- A package has no members, so none to leave out. -/
theorem map_publicView_packageEntities :
    (packageEntities a d).map publicView = packageEntities a d := by
  have kept : ∀ e ∈ packageEntities a d, publicView e = id e := by
    intro e mem
    obtain ⟨first, -, rfl⟩ := List.mem_map.mp ((List.mergeSort_perm _ _).mem_iff.mp mem)
    rfl
  rw [List.map_congr_left kept, List.map_id]

theorem aggregate_package_entity :
    aggregate a (aggregate a d .package) .entity = releveled (aggregate a d .package) .entity := by
  have entities := map_publicView_packageEntities a d
  rw [releveled_aggregate]
  simp only [aggregate, entities]

end

/-- Levels compose. The view of entities keeps the relations of a document and its entities, these with
their public members alone. A view of the method view is that of the document itself, and so are the views
of entities and of packages that are taken of the view of entities. The method view of any view, and the
view of entities of one of packages, is the view that it is taken of, with metrics for the other level.
And the metrics of the method view and of the view of entities differ in the level alone. -/
theorem levels_compose (a : Config.Aggregation) (d : Document) :
    let view := aggregate a d
    ((view .entity).relations = d.relations ∧
      List.Forall₂ PublicPart d.entities (view .entity).entities) ∧
    (∀ level, aggregate a (view .method) level = view level) ∧
    aggregate a (view .entity) .entity = view .entity ∧
    aggregate a (view .entity) .package = view .package ∧
    aggregate a (view .package) .entity = releveled (view .package) .entity ∧
    (∀ level, aggregate a (view level) .method = releveled (view level) .method) ∧
    (∀ level, ∃ m, (view level).metrics = some m ∧ m.level = level) ∧
    (view .entity).metrics = (releveled (view .method) .entity).metrics := by
  intro view
  refine ⟨⟨rfl, ?_⟩, ?_, aggregate_entity_entity a d, aggregate_entity_package a d,
    aggregate_package_entity a d, ?_, ?_, ?_⟩
  · change List.Forall₂ PublicPart d.entities (d.entities.map publicView)
    rw [List.forall₂_map_right_iff, List.forall₂_same]
    intro e _
    exact ⟨rfl, rfl⟩
  · intro level
    cases level <;> rfl
  · intro level
    rw [releveled_aggregate]
    rfl
  · intro level
    exact ⟨_, metrics_aggregate a d level, rfl⟩
  · rw [releveled_aggregate, metrics_aggregate]
    exact congrArg some (Metrics.compute_congr (sameOutline_entity a d).ids d.relations .entity)

end Aggregation

end ArchAtlas
