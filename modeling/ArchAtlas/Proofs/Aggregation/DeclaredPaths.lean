import ArchAtlas.Proofs.Aggregation.Partition
import ArchAtlas.Proofs.Document.Entities

namespace ArchAtlas.Aggregation

def declaredTypes (p : Facts.Package) : List Facts.TypeDecl := p.structs ++ p.interfaces

section

variable {a : Config.Aggregation} {p : Facts.Project} {pkg : Facts.Package} {d : Document}

/-- Behind the last point of the id stands the name, which has none, and so before it stands the path. -/
theorem declaringPackage?_typeId {t : Facts.TypeDecl} (path : pkg.path ≠ "")
    (plain : '.' ∉ t.name.toList) :
    Config.Aggregation.declaringPackage? (pkg.typeId t) = some pkg.path := by
  have letters : (pkg.typeId t).toList = pkg.path.toList ++ '.' :: t.name.toList := by
    simp [Facts.Package.typeId]
  have nonempty : pkg.path.toList.isEmpty = false := by
    simpa [String.toList_eq_nil_iff] using path
  rw [Config.Aggregation.declaringPackage?, letters, Text.splitLast?_append plain]
  simp [nonempty]

theorem exists_declaredType {e : Entity} (mem : e ∈ Document.ofPackage pkg) :
    ∃ t ∈ declaredTypes pkg, e.id = pkg.typeId t := by
  rcases List.mem_append.mp mem with mem | mem
  · obtain ⟨t, ht, rfl⟩ := List.mem_map.mp mem
    exact ⟨t, List.mem_append_left _ ht, rfl⟩
  · obtain ⟨t, ht, rfl⟩ := List.mem_map.mp mem
    exact ⟨t, List.mem_append_right _ ht, rfl⟩

theorem ofPackage_ne_nil_iff : Document.ofPackage pkg ≠ [] ↔ declaredTypes pkg ≠ [] := by
  simp [Document.ofPackage, declaredTypes]

/-- A package that declares types has a path, and no type has a point in its name. -/
structure Named (pkg : Facts.Package) : Prop where
  path : declaredTypes pkg ≠ [] → pkg.path ≠ ""
  plain : ∀ t ∈ declaredTypes pkg, '.' ∉ t.name.toList

theorem packageOf_ofPackage (named : Named pkg) {e : Entity} (mem : e ∈ Document.ofPackage pkg)
    (location : Span) : a.packageOf { e with location } = pkg.path := by
  obtain ⟨t, ht, id⟩ := exists_declaredType mem
  have names := declaringPackage?_typeId (named.path (List.ne_nil_of_mem ht)) (named.plain t ht)
  rw [Config.Aggregation.packageOf, id, names, Option.getD_some]

theorem mem_package_ids_ofProject (named : ∀ pkg ∈ p.packages, Named pkg)
    (made : d.entities = p.packages.flatMap Document.ofPackage) (x : String) :
    x ∈ (packageEntities a d).map Entity.id ↔
      ∃ pkg ∈ p.packages, declaredTypes pkg ≠ [] ∧ pkg.path = x := by
  rw [mem_package_ids, made]
  constructor
  · rintro ⟨e, mem, rfl⟩
    obtain ⟨pkg, hp, he⟩ := List.mem_flatMap.mp mem
    refine ⟨pkg, hp, ofPackage_ne_nil_iff.mp (List.ne_nil_of_mem he), ?_⟩
    exact (packageOf_ofPackage (named pkg hp) he e.location).symm
  · rintro ⟨pkg, hp, declares, rfl⟩
    obtain ⟨e, he⟩ := List.exists_mem_of_ne_nil _ (ofPackage_ne_nil_iff.mpr declares)
    refine ⟨e, List.mem_flatMap.mpr ⟨pkg, hp, he⟩, ?_⟩
    exact packageOf_ofPackage (named pkg hp) he e.location

end

/-- In the document of a project whose packages have paths and whose types have no point in their names,
every entity belongs to the path of the package that declares it, whatever its location; and at package
level there is one entity for each path of a package that declares a type, ordered by bytes. -/
theorem package_level_follows_paths {timestamp : String} {p : Facts.Project}
    {implementations : List Matching.Implementation} {d : Document}
    (made : Document.ofProject timestamp p implementations = .ok d)
    (named : ∀ pkg ∈ p.packages, Named pkg) (a : Config.Aggregation) :
    let ids := (aggregate a d .package).entities.map Entity.id
    d.entities = p.packages.flatMap Document.ofPackage ∧
    (∀ pkg ∈ p.packages, ∀ e ∈ Document.ofPackage pkg, ∀ location,
      a.packageOf { e with location } = pkg.path) ∧
    (∀ x, x ∈ ids ↔ ∃ pkg ∈ p.packages, declaredTypes pkg ≠ [] ∧ pkg.path = x) ∧
    ids.Pairwise fun x y => Text.bytes x < Text.bytes y := by
  obtain ⟨entities, -, -⟩ := Document.ofProject_eq_ok made
  refine ⟨entities, ?_, mem_package_ids_ofProject named entities, ?_⟩
  · intro pkg hp e he location
    exact packageOf_ofPackage (named pkg hp) he location
  · exact List.pairwise_map.mpr packageEntities_increasing

/-- Two packages of one path that has a point itself, one that has a name only, and one without types
and without a path. -/
def pathsWithPoints : Facts.Project :=
  let type (name : String) : Facts.TypeDecl := ⟨name, "", [], [], true, ⟨"/abs/src/x.go", 1, 2⟩⟩
  { Facts.Project.empty with
    packages :=
      [⟨"1", "yaml", "gopkg.in/yaml.v3", [], [], [type "Node"], [], []⟩, ⟨"2", "", "", [], [], [], [], []⟩,
        ⟨"3", "main", "", [], [], [type "Node"], [type "Sink"], []⟩,
        ⟨"4", "yaml", "gopkg.in/yaml.v3", [], [], [], [type "Walker"], []⟩] }

theorem package_level_follows_paths_pathsWithPoints :
    (∀ pkg ∈ pathsWithPoints.packages, Named pkg) ∧
    ∃ d, Document.ofProject "T" pathsWithPoints [] = .ok d ∧
      ∀ x, x ∈ (aggregate .default d .package).entities.map Entity.id ↔
        x = "gopkg.in/yaml.v3" ∨ x = "main" := by
  have paths : ∀ pkg ∈ pathsWithPoints.packages, declaredTypes pkg ≠ [] → pkg.path ≠ "" := by
    decide
  have plain : ∀ pkg ∈ pathsWithPoints.packages, ∀ t ∈ declaredTypes pkg, '.' ∉ t.name.toList := by
    decide
  have named : ∀ pkg ∈ pathsWithPoints.packages, Named pkg :=
    fun pkg hp => ⟨paths pkg hp, plain pkg hp⟩
  obtain ⟨d, made⟩ : ∃ d, Document.ofProject "T" pathsWithPoints [] = .ok d := ⟨_, rfl⟩
  obtain ⟨-, -, ids, -⟩ := package_level_follows_paths made named .default
  refine ⟨named, d, made, fun x => (ids x).trans ⟨?_, ?_⟩⟩
  · rintro ⟨pkg, hp, declares, rfl⟩
    revert pkg
    decide
  · rintro (rfl | rfl) <;> decide

end ArchAtlas.Aggregation
