import ArchAtlas.Proofs.Aggregation.Relations
import ArchAtlas.Proofs.Text.Joined

namespace ArchAtlas

theorem RelationType.name_injective : Function.Injective RelationType.name := by
  intro x y
  cases x <;> cases y <;> decide

theorem RelationType.hyphen_notMem_name (t : RelationType) : '-' ∉ t.name.toList := by
  cases t <;> decide

namespace Aggregation

def idOf (k : String × String × RelationType) : String :=
  "pkg-" ++ k.1 ++ "-" ++ k.2.1 ++ "-" ++ k.2.2.name

theorem lift?_id {a : Config.Aggregation} {d : Document} {r l : Relation}
    (h : lift? a d r = some l) : l.id = idOf l.key := by
  unfold lift? at h
  split at h
  · split at h
    · cases h
    · cases h
      rfl
  · cases h

/-- Folding relations in changes no id, and no key either. -/
theorem foldl_foldRelation_ids {rs : List Relation}
    {folded : Roster (String × String × RelationType) Relation}
    (own : ∀ r ∈ rs, r.id = idOf r.key) (before : ∀ f ∈ folded.items, f.id = idOf f.key) :
    ∀ f ∈ (rs.foldl foldRelation folded).items, f.id = idOf f.key := by
  induction rs generalizing folded with
  | nil => exact before
  | cons r rs ih =>
    apply ih
    · exact fun x hx => own x (List.mem_cons_of_mem _ hx)
    · exact Roster.forall_put before (own r List.mem_cons_self) fun _ kept => kept

theorem packageRelations_ids (a : Config.Aggregation) (d : Document) :
    (packageRelations a d).map Relation.id = ((packageRelations a d).map Relation.key).map idOf := by
  rw [List.map_map]
  apply List.map_congr_left
  apply foldl_foldRelation_ids
  · intro l mem
    obtain ⟨r, -, lifted⟩ := List.mem_filterMap.mp mem
    exact lift?_id lifted
  · simp [Roster.empty]

/-- The type can be told from an id; of the two packages, only how they are joined. -/
theorem idOf_eq_iff {s t s' t' : String} {type type' : RelationType} :
    idOf (s, t, type) = idOf (s', t', type') ↔
      s ++ "-" ++ t = s' ++ "-" ++ t' ∧ type = type' := by
  constructor
  · intro same
    obtain ⟨packages, names⟩ :=
      Text.hyphen_inj type.hyphen_notMem_name type'.hyphen_notMem_name same
    refine ⟨?_, RelationType.name_injective names⟩
    have letters := congrArg String.toList packages
    exact String.toList_inj.mp (by simpa using letters)
  · rintro ⟨joined, rfl⟩
    have packages : "pkg-" ++ (s ++ "-" ++ t) = "pkg-" ++ (s' ++ "-" ++ t') := by rw [joined]
    simp only [← String.append_assoc] at packages
    simp only [idOf, packages]

/-- The document joins two pairs of packages, by relations of one type, that are the same text when a
hyphen is put between them: what the target of one starts with, the source of the other ends with. -/
def Confusable (a : Config.Aggregation) (d : Document) : Prop :=
  ∃ s u t type,
    (∃ r ∈ d.relations, crossing? a d r = some (s, u ++ "-" ++ t, type)) ∧
    ∃ r ∈ d.relations, crossing? a d r = some (s ++ "-" ++ u, t, type)

theorem ids_nodup_iff (a : Config.Aggregation) (d : Document) :
    ((packageRelations a d).map Relation.id).Nodup ↔ ¬ Confusable a d := by
  have h := folds_packageRelations a d
  rw [packageRelations_ids, List.nodup_map_iff_inj_on h.keys_nodup]
  simp only [h.key_iff]
  constructor
  · rintro inj ⟨s, u, t, type, first, second⟩
    have same : idOf (s, u ++ "-" ++ t, type) = idOf (s ++ "-" ++ u, t, type) :=
      idOf_eq_iff.mpr ⟨Text.hyphen_eq_iff.mpr (Or.inr (Or.inl ⟨u, rfl, rfl⟩)), rfl⟩
    have source : s = s ++ "-" ++ u := congrArg Prod.fst (inj _ first _ second same)
    exact Text.joined_ne_left rfl s u source.symm
  · rintro clear ⟨s, t, type⟩ first ⟨s', t', type'⟩ second same
    obtain ⟨joined, rfl⟩ := idOf_eq_iff.mp same
    rcases Text.hyphen_eq_iff.mp joined with ⟨rfl, rfl⟩ | ⟨u, rfl, rfl⟩ | ⟨u, rfl, rfl⟩
    · rfl
    · exact absurd ⟨s, u, t', type, first, second⟩ clear
    · exact absurd ⟨s', u, t, type, second, first⟩ clear

/-- Only a package with a hyphen in its name can be read in two ways. -/
theorem not_confusable {a : Config.Aggregation} {d : Document}
    (plain : ∀ e ∈ d.entities, '-' ∉ (a.packageOf e).toList) : ¬ Confusable a d := by
  rintro ⟨s, u, t, type, ⟨r, -, crosses⟩, -⟩
  obtain ⟨-, -, target, -⟩ := crossing?_eq_some.mp crosses
  obtain ⟨e, found, package⟩ := Option.map_eq_some_iff.mp target
  apply plain e (List.mem_of_find?_eq_some found)
  rw [package, Text.toList_hyphen]
  simp

/-- The ids of the relations at package level are distinct exactly when the document has no two pairs of
packages that a hyphen joins to the same text; so they are where no package has a hyphen in its name. -/
theorem package_relation_ids_distinct (a : Config.Aggregation) (d : Document) :
    (((aggregate a d .package).relations.map Relation.id).Nodup ↔ ¬ Confusable a d) ∧
    ((∀ e ∈ d.entities, '-' ∉ (a.packageOf e).toList) →
      ((aggregate a d .package).relations.map Relation.id).Nodup) :=
  ⟨ids_nodup_iff a d, fun plain => (ids_nodup_iff a d).mpr (not_confusable plain)⟩

theorem package_relation_ids_distinct_twoPackages :
    (∀ e ∈ twoPackages.entities, '-' ∉ ((Config.Aggregation.default).packageOf e).toList) ∧
    ((aggregate .default twoPackages .package).relations.map Relation.id).Nodup := by
  have plain : ∀ e ∈ twoPackages.entities,
      '-' ∉ ((Config.Aggregation.default).packageOf e).toList := by decide
  exact ⟨plain, (package_relation_ids_distinct .default twoPackages).2 plain⟩

/-- Four packages, of which the first two and the last two are joined to the same text. -/
def hyphenated : Document :=
  { twoPackages with
    entities := ["a.X", "b-c.Y", "a-b.Z", "c.W"].map fun id =>
      ⟨id, id, .struct, .exposed, [], ⟨"", 1, 1⟩⟩
    relations := [.explicit "1" .dependency "a.X" "b-c.Y", .explicit "2" .dependency "a-b.Z" "c.W"] }

/-- Two relations between different packages with one id, in a document whose entities are distinct. -/
theorem package_relation_ids_repeated_hyphenated :
    (hyphenated.entities.map Entity.id).Nodup ∧
    (aggregate .default hyphenated .package).relations.map Relation.key =
      [("a", "b-c", .dependency), ("a-b", "c", .dependency)] ∧
    ¬ ((aggregate .default hyphenated .package).relations.map Relation.id).Nodup := by
  refine ⟨by decide, by decide, by decide⟩

end Aggregation

end ArchAtlas
