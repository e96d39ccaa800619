import ArchAtlas.Document.OfFacts
import ArchAtlas.Proofs.Distinct
import ArchAtlas.Proofs.TypeIndex

namespace ArchAtlas.Document

theorem firstDuplicate?_eq_none_iff {seen : List (String × String)} {entities : List Entity} :
    firstDuplicate? seen entities = none ↔
      (entities.map Entity.id).Nodup ∧ ∀ e ∈ entities, seen.lookup e.id = none := by
  induction entities generalizing seen with
  | nil => simp [firstDuplicate?]
  | cons e rest ih =>
    rw [List.map_cons, List.nodup_cons, List.forall_mem_cons, firstDuplicate?]
    cases known : seen.lookup e.id with
    | some file => simp
    | none =>
      have later : ∀ x : Entity, ((e.id, e.location.file) :: seen).lookup x.id = none ↔
          x.id ≠ e.id ∧ seen.lookup x.id = none := by
        intro x
        rw [List.lookup_cons]
        by_cases same : x.id = e.id
        · simp [same]
        · simp only [beq_eq_false_iff_ne.mpr same, same, ne_eq, not_false_eq_true, true_and]
      simp only [ih, later, true_and, List.mem_map, not_exists, not_and]
      constructor
      · rintro ⟨distinct, new⟩
        exact ⟨⟨fun x mem => (new x mem).1, distinct⟩, fun x mem => (new x mem).2⟩
      · rintro ⟨⟨apart, distinct⟩, new⟩
        exact ⟨distinct, fun x mem => ⟨apart x mem, new x mem⟩⟩

theorem firstDuplicate?_nil_eq_none_iff {entities : List Entity} :
    firstDuplicate? [] entities = none ↔ (entities.map Entity.id).Nodup := by
  simp [firstDuplicate?_eq_none_iff]

theorem checkUnique_eq_ok_iff (d : Document) :
    d.checkUnique = .ok () ↔ (d.entities.map Entity.id).Nodup := by
  rw [← firstDuplicate?_nil_eq_none_iff, checkUnique]
  cases firstDuplicate? [] d.entities <;> simp

/-- The entity with an id is found by it. -/
theorem entity?_id {d : Document} (distinct : (d.entities.map Entity.id).Nodup) {e : Entity}
    (mem : e ∈ d.entities) : d.entity? e.id = some e :=
  find?_of_nodup distinct mem

theorem ofProject_eq_ok {timestamp : String} {p : Facts.Project}
    {implementations : List Matching.Implementation} {d : Document}
    (h : ofProject timestamp p implementations = .ok d) :
    d.entities = p.packages.flatMap ofPackage ∧
    d.relations = firstBy Relation.key (implementations.map ofImplementation ++ compositions p) ∧
    (d.entities.map Entity.id).Nodup := by
  simp only [ofProject, bind, Except.bind, pure, Except.pure] at h
  split at h
  · cases h
  · rename_i unique
    cases h
    exact ⟨rfl, rfl, (checkUnique_eq_ok_iff _).mp unique⟩

/-- Whether a document is made depends on the declared types alone. -/
theorem ofProject_eq_error_iff (timestamp : String) (p : Facts.Project)
    (implementations : List Matching.Implementation) (duplicate : DuplicateId) :
    ofProject timestamp p implementations = .error duplicate ↔
      firstDuplicate? [] (p.packages.flatMap ofPackage) = some duplicate := by
  simp only [ofProject, checkUnique, bind, Except.bind]
  cases firstDuplicate? [] (p.packages.flatMap ofPackage) <;> simp [pure, Except.pure]

/-! ## Entities and declarations -/

def kindOf : DeclaredKind → EntityKind
  | .struct => .struct
  | .interface => .interface

def ofDeclaration (d : Declaration) : Entity :=
  ofType d.package (kindOf d.kind) d.type

theorem mem_entities {p : Facts.Project} {e : Entity} :
    e ∈ p.packages.flatMap ofPackage ↔ ∃ d ∈ Declaration.ofProject p, ofDeclaration d = e := by
  simp only [Declaration.mem_ofProject, List.mem_flatMap, ofPackage, List.mem_append, List.mem_map]
  constructor
  · rintro ⟨pkg, hp, ⟨t, ht, rfl⟩ | ⟨t, ht, rfl⟩⟩
    · exact ⟨⟨pkg, t, .struct⟩, ⟨hp, ht⟩, rfl⟩
    · exact ⟨⟨pkg, t, .interface⟩, ⟨hp, ht⟩, rfl⟩
  · rintro ⟨⟨pkg, t, kind⟩, ⟨hp, ht⟩, rfl⟩
    cases kind with
    | struct => exact ⟨pkg, hp, Or.inl ⟨t, ht, rfl⟩⟩
    | interface => exact ⟨pkg, hp, Or.inr ⟨t, ht, rfl⟩⟩

end ArchAtlas.Document
