import ArchAtlas.Proofs.Aggregation.Relations
import ArchAtlas.Proofs.Distinct
import ArchAtlas.Proofs.Text.ByteOrder

namespace ArchAtlas.Aggregation

/-- The parts of a list under different keys make up the list. -/
theorem flatMap_filter_perm {α κ : Type} [DecidableEq κ] (key : α → κ) {keys : List κ}
    (distinct : keys.Nodup) {items : List α} (cover : ∀ x ∈ items, key x ∈ keys) :
    (keys.flatMap fun k => items.filter fun x => key x = k).Perm items := by
  induction keys generalizing items with
  | nil =>
    obtain rfl : items = [] := List.eq_nil_iff_forall_not_mem.mpr fun x mem => by
      simpa using cover x mem
    exact .refl _
  | cons k keys ih =>
    obtain ⟨new, distinct⟩ := List.nodup_cons.mp distinct
    -- The items under `k` are set aside: those under the other keys lie among the rest.
    have rest : ∀ k' ∈ keys, (items.filter fun x => key x = k') =
        (items.filter fun x => !decide (key x = k)).filter fun x => key x = k' := by
      intro k' mem
      rw [List.filter_filter]
      apply List.filter_congr
      intro x _
      by_cases same : key x = k'
      · have other : k' ≠ k := fun same => new (same ▸ mem)
        simp [same, other]
      · simp [same]
    have others : ∀ x ∈ items.filter (fun x => !decide (key x = k)), key x ∈ keys := by
      intro x mem
      obtain ⟨mem, other⟩ := List.mem_filter.mp mem
      exact (List.mem_cons.mp (cover x mem)).resolve_left (by simpa using other)
    rw [List.flatMap_cons, List.flatMap_congr rest]
    exact ((ih distinct others).append_left _).trans (List.filter_append_perm _ items)

section

variable {a : Config.Aggregation} {d : Document}

theorem package_ids_perm :
    ((packageEntities a d).map Entity.id).Perm (d.entities.map a.packageOf).eraseDups := by
  rw [← map_firstBy]
  refine ((List.mergeSort_perm _ _).map Entity.id).trans ?_
  rw [List.map_map]
  rfl

theorem mem_package_ids {x : String} :
    x ∈ (packageEntities a d).map Entity.id ↔ ∃ e ∈ d.entities, a.packageOf e = x := by
  rw [package_ids_perm.mem_iff, List.mem_eraseDups, List.mem_map]

theorem package_ids_nodup : ((packageEntities a d).map Entity.id).Nodup :=
  package_ids_perm.nodup_iff.mpr (nodup_eraseDups _)

/-- Packages are ordered by the bytes of their names, and no two have the same name. -/
theorem packageEntities_increasing :
    (packageEntities a d).Pairwise fun x y => Text.bytes x.id < Text.bytes y.id := by
  have sorted : (packageEntities a d).Pairwise fun x y => decide (x.id ≤ y.id) = true := by
    apply List.pairwise_mergeSort
    · intro x y z
      simpa using String.le_trans
    · intro x y
      simpa using String.le_total x.id y.id
  have apart : (packageEntities a d).Pairwise fun x y => x.id ≠ y.id :=
    List.pairwise_map.mp package_ids_nodup
  refine (sorted.and apart).imp ?_
  rintro x y ⟨le, ne⟩
  have le : x.id ≤ y.id := by simpa using le
  exact Text.bytes_lt (String.not_le.mp fun ge => ne (String.le_antisymm le ge))

/-- A package is a bare node at the place of its first entity. -/
theorem mem_packageEntities {e : Entity} (h : e ∈ packageEntities a d) :
    e.kind = .package ∧ e.members = [] ∧
      ∃ first, (d.entities.find? fun c => a.packageOf c = e.id) = some first ∧
        e.location = first.location := by
  obtain ⟨first, kept, rfl⟩ := List.mem_map.mp ((List.mergeSort_perm _ _).mem_iff.mp h)
  exact ⟨rfl, rfl, first, find?_of_mem_firstBy kept, rfl⟩

theorem constituents_ne_nil {e : Entity} (h : e ∈ packageEntities a d) :
    constituents a d e.id ≠ [] := by
  obtain ⟨-, -, first, found, -⟩ := mem_packageEntities h
  have holds := List.find?_some found
  have inside : first ∈ d.entities.filter fun c => a.packageOf c = e.id :=
    List.mem_filter.mpr ⟨List.mem_of_find?_eq_some found, holds⟩
  exact List.ne_nil_of_mem (List.mem_map_of_mem inside)

/-- Every entity of the document is a constituent of one package. -/
theorem flatMap_constituents_perm :
    ((packageEntities a d).flatMap fun e => constituents a d e.id).Perm
      (d.entities.map Entity.id) := by
  have parts : ((packageEntities a d).map Entity.id).flatMap
      (fun k => d.entities.filter fun e => a.packageOf e = k) |>.Perm d.entities :=
    flatMap_filter_perm a.packageOf package_ids_nodup fun e mem => mem_package_ids.mpr ⟨e, mem, rfl⟩
  have named := parts.map Entity.id
  rw [List.map_flatMap, List.flatMap_map] at named
  exact named

theorem owner?_mem_package_ids {id x : String} (h : owner? a d id = some x) :
    x ∈ (packageEntities a d).map Entity.id := by
  obtain ⟨e, found, rfl⟩ := Option.map_eq_some_iff.mp h
  exact mem_package_ids.mpr ⟨e, List.mem_of_find?_eq_some found, rfl⟩

theorem packageRelations_closed {r : Relation} (h : r ∈ packageRelations a d) :
    r.source ∈ (packageEntities a d).map Entity.id ∧
      r.target ∈ (packageEntities a d).map Entity.id := by
  obtain ⟨x, -, hx⟩ := (folds_packageRelations a d).exists_of_mem h
  obtain ⟨-, source, target, -⟩ := crossing?_eq_some.mp hx
  exact ⟨owner?_mem_package_ids source, owner?_mem_package_ids target⟩

theorem length_packageEntities_le : (packageEntities a d).length ≤ d.entities.length := by
  have count := package_ids_perm (a := a) (d := d) |>.length_eq
  rw [List.length_map] at count
  rw [count, ← List.length_map a.packageOf]
  exact (List.subperm_of_subset (nodup_eraseDups _) fun x => List.mem_eraseDups.mp).length_le

end

/-- The entities of `view` divide those of a document by package. They are ordered by the bytes of their
ids, which are the packages of the document's entities; the constituents of each are some of these, and
those of all together are all of these; each is a bare node at the place of the first of its
constituents; and every relation of `view` joins two of them. -/
structure Partitions (a : Config.Aggregation) (d view : Document) : Prop where
  increasing : view.entities.Pairwise fun x y => Text.bytes x.id < Text.bytes y.id
  ids : ∀ x, x ∈ view.entities.map Entity.id ↔ ∃ e ∈ d.entities, a.packageOf e = x
  inhabited : ∀ e ∈ view.entities, constituents a d e.id ≠ []
  cover : (view.entities.flatMap fun e => constituents a d e.id).Perm (d.entities.map Entity.id)
  bare : ∀ e ∈ view.entities, e.kind = .package ∧ e.members = []
  place : ∀ e ∈ view.entities, ∃ first,
    (d.entities.find? fun c => a.packageOf c = e.id) = some first ∧ e.location = first.location
  closed : ∀ r ∈ view.relations,
    r.source ∈ view.entities.map Entity.id ∧ r.target ∈ view.entities.map Entity.id

/-- The entities at package level partition the document, so that there are no more of them than at the
level of entities, where there are as many as at method level and in the document. -/
theorem package_level_partitions (a : Config.Aggregation) (d : Document) :
    Partitions a d (aggregate a d .package) ∧
    (aggregate a d .package).entities.length ≤ (aggregate a d .entity).entities.length ∧
    (aggregate a d .entity).entities.length = (aggregate a d .method).entities.length ∧
    (aggregate a d .method).entities.length = d.entities.length ∧
    ∀ level, (aggregate a d level).metrics.map Metrics.entityCount =
      some (aggregate a d level).entities.length := by
  have same : (aggregate a d .entity).entities.length = d.entities.length := List.length_map _
  refine ⟨⟨packageEntities_increasing, fun x => mem_package_ids, fun e => constituents_ne_nil,
    flatMap_constituents_perm, ?_, ?_, fun r => packageRelations_closed⟩, ?_, same, rfl, ?_⟩
  · intro e mem
    obtain ⟨kind, members, -⟩ := mem_packageEntities mem
    exact ⟨kind, members⟩
  · intro e mem
    exact (mem_packageEntities mem).2.2
  · rw [same]
    exact length_packageEntities_le
  · intro level
    cases level <;> rfl

end ArchAtlas.Aggregation
