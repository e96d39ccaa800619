import ArchAtlas.Proofs.TypeIndex.Resolution

namespace ArchAtlas

namespace Declaration

/-- The declaration is the first of a project that a test accepts. -/
def IsFirst (p : Facts.Project) (accepts : Declaration → Prop) (d : Declaration) : Prop :=
  ∃ before after, ofProject p = before ++ d :: after ∧ accepts d ∧ ∀ e ∈ before, ¬ accepts e

theorem first?_eq_some_iff {p : Facts.Project} {scope name : String} {d : Declaration} :
    first? p scope name = some d ↔ IsFirst p (fun e => e.CountsIn scope name) d := by
  simp only [first?, List.find?_eq_some_iff_append, IsFirst, decide_eq_true_eq, Bool.not_eq_true',
    decide_eq_false_iff_not]
  constructor
  · rintro ⟨counts, before, after, split, earlier⟩
    exact ⟨before, after, split, counts, earlier⟩
  · rintro ⟨before, after, split, counts, earlier⟩
    exact ⟨counts, before, after, split, earlier⟩

end Declaration

namespace TypeIndex

variable {p : Facts.Project} {path type scope id : String}

theorem resolve?_eq_some_iff (plain : ∀ d ∈ Declaration.ofProject p, ':' ∉ d.type.name.toList)
    (within : (TypeName.qualifier? type).getD path = scope) :
    (build p).resolve? path type = some id ↔
      ∃ d, Declaration.IsFirst p (fun e => e.CountsIn scope (TypeName.bare type)) d ∧ d.id = id := by
  rw [resolve?_eq_first plain within, Option.map_eq_some_iff]
  simp only [Declaration.first?_eq_some_iff]

theorem resolve?_eq_none_iff (plain : ∀ d ∈ Declaration.ofProject p, ':' ∉ d.type.name.toList)
    (within : (TypeName.qualifier? type).getD path = scope) :
    (build p).resolve? path type = none ↔
      ∀ d ∈ Declaration.ofProject p, ¬ d.CountsIn scope (TypeName.bare type) := by
  rw [resolve?_eq_first plain within, Option.map_eq_none_iff, Declaration.first?,
    List.find?_eq_none]
  simp only [decide_eq_true_eq]

/-- An id has the kind of the first declaration with it. -/
theorem kind?_eq_some_iff {kind : DeclaredKind} :
    (build p).kind? id = some kind ↔
      ∃ d, Declaration.IsFirst p (fun e => e.id = id) d ∧ d.kind = kind := by
  have kinds : (build p).kinds = (Declaration.ofProject p).map fun d => (d.id, d.kind) := rfl
  rw [kind?, kinds, List.lookup_eq_some_iff]
  constructor
  · rintro ⟨front, back, listed, earlier⟩
    obtain ⟨before, rest, split, rfl, tail⟩ := List.map_eq_append_iff.mp listed
    obtain ⟨d, after, rfl, here, rfl⟩ := List.map_eq_cons_iff.mp tail
    obtain ⟨rfl, rfl⟩ := Prod.mk.inj here
    refine ⟨d, ⟨before, after, split, rfl, fun e mem again => ?_⟩, rfl⟩
    have other := earlier (e.id, e.kind) (List.mem_map_of_mem mem)
    simp [again] at other
  · rintro ⟨d, ⟨before, after, split, rfl, earlier⟩, rfl⟩
    refine ⟨before.map fun e => (e.id, e.kind), after.map fun e => (e.id, e.kind), ?_, ?_⟩
    · rw [split, List.map_append, List.map_cons]
    · rintro entry listed
      obtain ⟨e, mem, rfl⟩ := List.mem_map.mp listed
      simpa using Ne.symm (earlier e mem)

/-- What is found is declared, so that some declaration is the first with its id. -/
theorem kind?_of_resolve? (found : (build p).resolve? path type = some id) :
    ∃ kind, (build p).kind? id = some kind := by
  obtain ⟨d, mem, rfl⟩ := resolve?_declared found
  obtain ⟨first, -, -, kind⟩ := kind?_declared mem
  exact ⟨first.kind, kind⟩

/-- Where names have no colon, a qualified type is resolved alike in every package: to the first
declaration of its name in a package that has the qualifier as its short name or as its path, and to none
where there is none. All that any type is resolved to has a kind, which is that of the first declaration
with its id. -/
theorem qualified_resolution (p : Facts.Project)
    (plain : ∀ d ∈ Declaration.ofProject p, ':' ∉ d.type.name.toList) (type qualifier : String)
    (qualified : TypeName.qualifier? type = some qualifier) :
    (∀ path path', (build p).resolve? path type = (build p).resolve? path' type) ∧
    (∀ path id, (build p).resolve? path type = some id ↔
      ∃ d, Declaration.IsFirst p (fun e => e.CountsIn qualifier (TypeName.bare type)) d ∧
        d.package.path ++ "." ++ d.type.name = id) ∧
    (∀ path, (build p).resolve? path type = none ↔
      ∀ d ∈ Declaration.ofProject p, ¬ d.CountsIn qualifier (TypeName.bare type)) ∧
    (∀ path type' id, (build p).resolve? path type' = some id → ∃ kind, (build p).kind? id = some kind) ∧
    (∀ id kind, (build p).kind? id = some kind ↔
      ∃ d, Declaration.IsFirst p (fun e => e.id = id) d ∧ d.kind = kind) := by
  have within : ∀ path, (TypeName.qualifier? type).getD path = qualifier := by
    intro path
    rw [qualified, Option.getD_some]
  refine ⟨?_, ?_, ?_, ?_, ?_⟩
  · intro path path'
    rw [resolve?_eq_first plain (within path), resolve?_eq_first plain (within path')]
  · intro path id
    exact resolve?_eq_some_iff plain (within path)
  · intro path
    exact resolve?_eq_none_iff plain (within path)
  · intro path type' id found
    exact kind?_of_resolve? found
  · intro id kind
    exact kind?_eq_some_iff

/-- Three packages under one qualifier, the path of the last being the short name of the others, and two
declarations of one id. -/
def threeStores : Facts.Project :=
  { Facts.Project.empty with
    packages := [declaring "store" "pkg/disk" [] ["Page"], declaring "store" "pkg/net" ["Item"] ["Page"],
      declaring "core" "store" [] ["Item", "Hub"], declaring "net" "pkg/net" [] ["Item"]] }

theorem qualified_resolution_threeStores :
    (∀ d ∈ Declaration.ofProject threeStores, ':' ∉ d.type.name.toList) ∧
    TypeName.qualifier? "map[string]*store.Item" = some "store" ∧
    (∀ path, (build threeStores).resolve? path "map[string]*store.Item" = some "pkg/net.Item") ∧
    ∃ d, Declaration.IsFirst threeStores (fun e => e.id = "pkg/net.Item") d ∧ d.kind = .interface := by
  have plain : ∀ d ∈ Declaration.ofProject threeStores, ':' ∉ d.type.name.toList := by decide
  have qualified : TypeName.qualifier? "map[string]*store.Item" = some "store" := by decide
  obtain ⟨alike, -, -, -, kinds⟩ := qualified_resolution threeStores plain _ _ qualified
  have found : (build threeStores).resolve? "pkg/net" "map[string]*store.Item" =
      some "pkg/net.Item" := by
    decide
  have kind : (build threeStores).kind? "pkg/net.Item" = some .interface := by decide
  exact ⟨plain, qualified, fun path => (alike path "pkg/net").trans found, (kinds _ _).mp kind⟩

end TypeIndex

end ArchAtlas
