import ArchAtlas.TypeIndex

namespace ArchAtlas

theorem mem_of_lookup {α β : Type} [BEq α] [LawfulBEq α] {k : α} {v : β} {pairs : List (α × β)}
    (h : pairs.lookup k = some v) : (k, v) ∈ pairs := by
  obtain ⟨before, after, rfl, -⟩ := List.lookup_eq_some_iff.mp h
  simp

theorem lookup_isSome {α β : Type} [BEq α] [LawfulBEq α] {k : α} {v : β} {pairs : List (α × β)}
    (h : (k, v) ∈ pairs) : ∃ v', pairs.lookup k = some v' := by
  cases found : pairs.lookup k with
  | some v' => exact ⟨v', rfl⟩
  | none =>
    have absent := List.lookup_eq_none_iff.mp found (k, v) h
    simp at absent

def DeclaredKind.typesOf (k : DeclaredKind) (p : Facts.Package) : List Facts.TypeDecl :=
  match k with
  | .struct => p.structs
  | .interface => p.interfaces

theorem Declaration.mem_ofProject {p : Facts.Project} {d : Declaration} :
    d ∈ ofProject p ↔ d.package ∈ p.packages ∧ d.type ∈ d.kind.typesOf d.package := by
  obtain ⟨pkg, t, kind⟩ := d
  simp only [ofProject, ofPackage, List.mem_flatMap, List.mem_append, List.mem_map, mk.injEq]
  constructor
  · rintro ⟨_, hp, ⟨_, ht, rfl, rfl, rfl⟩ | ⟨_, ht, rfl, rfl, rfl⟩⟩
    · exact ⟨hp, ht⟩
    · exact ⟨hp, ht⟩
  · rintro ⟨hp, ht⟩
    cases kind with
    | interface => exact ⟨pkg, hp, Or.inl ⟨t, ht, rfl, rfl, rfl⟩⟩
    | struct => exact ⟨pkg, hp, Or.inr ⟨t, ht, rfl, rfl, rfl⟩⟩

namespace TypeIndex

variable {p : Facts.Project}

theorem resolve?_declared {path type id : String} (h : (build p).resolve? path type = some id) :
    ∃ d ∈ Declaration.ofProject p, d.id = id := by
  unfold resolve? at h
  dsimp only at h
  split at h
  · have listed := mem_of_lookup h
    obtain ⟨d, mem, here⟩ := List.mem_flatMap.mp listed
    refine ⟨d, mem, ?_⟩
    rcases List.mem_cons.mp here with same | here
    · exact (congrArg Prod.snd same).symm
    · exact (congrArg Prod.snd (List.mem_singleton.mp here)).symm
  · cases h

theorem kind?_declared {d : Declaration} (mem : d ∈ Declaration.ofProject p) :
    ∃ d' ∈ Declaration.ofProject p, d'.id = d.id ∧ (build p).kind? d.id = some d'.kind := by
  have listed : (d.id, d.kind) ∈ (build p).kinds := List.mem_map.mpr ⟨d, mem, rfl⟩
  obtain ⟨kind, found⟩ := lookup_isSome listed
  obtain ⟨d', mem', same⟩ := List.mem_map.mp (mem_of_lookup found)
  obtain ⟨ids, kinds⟩ := Prod.mk.inj same
  exact ⟨d', mem', ids, kinds ▸ found⟩

end TypeIndex

end ArchAtlas
