import ArchAtlas.Proofs.Matching.Strategies

namespace ArchAtlas.Matching

def Implementation.ends (m : Implementation) : String × String := (m.structId, m.interfaceId)

/-- Implementations of a project that join what it declares, and none twice. -/
structure Grounded (p : Facts.Project) (implementations : List Implementation) : Prop where
  declared : ∀ m ∈ implementations, ∃ s ∈ structs p, ∃ i ∈ interfaces p,
    i.type.methods ≠ [] ∧ m.ends = (s.id, i.id)
  once : ((structs p).map TypeRef.id).Nodup → ((interfaces p).map TypeRef.id).Nodup →
    (implementations.map Implementation.ends).Nodup

/-- Structs are named only for interfaces that have methods. -/
def NamedForMethods (interfaces : List TypeRef) (named : List (Nat × Nat)) : Prop :=
  ∀ si ii, (si, ii) ∈ named → ∃ i, interfaces[ii]? = some i ∧ i.type.methods ≠ []

theorem methods_of_implements {s i : TypeRef} (h : implements s i = true) : i.type.methods ≠ [] := by
  intro none
  simp [implements, none] at h

/-- A struct is found to implement some of the interfaces that have methods, in order, by one strategy. -/
theorem matchStruct_eq {named : List (Nat × Nat)} {interfaces : List TypeRef}
    (bearing : NamedForMethods interfaces named) (confidence : Float) (s : TypeRef) (si : Nat) :
    ∃ strategy c, ∃ some : List TypeRef, some.Sublist interfaces ∧
      (∀ i ∈ some, i.type.methods ≠ []) ∧
      matchStruct confidence named interfaces s si = some.map (Implementation.make strategy c s) := by
  by_cases unnamed : Unnamed named interfaces si
  · refine ⟨.heuristic, Confidence.heuristic, interfaces.filter (implements s), List.filter_sublist,
      ?_, matchStruct_of_unnamed unnamed⟩
    intro i mem
    exact methods_of_implements (List.mem_filter.mp mem).2
  · refine ⟨.oracle, Confidence.clamp confidence,
      (interfaces.zipIdx.filter fun x => isNamed named si x.2).map Prod.fst, ?_, ?_, ?_⟩
    · have part := (List.filter_sublist (p := fun x => isNamed named si x.2)
        (l := interfaces.zipIdx)).map Prod.fst
      rwa [List.zipIdx_map_fst] at part
    · intro i mem
      obtain ⟨⟨_, ii⟩, here, rfl⟩ := List.mem_map.mp mem
      obtain ⟨there, said⟩ := List.mem_filter.mp here
      obtain ⟨i', place, methods⟩ := bearing si ii (List.contains_iff_mem.mp said)
      rw [List.mem_zipIdx_iff_getElem?.mp there] at place
      cases place
      exact methods
    · rw [matchStruct_of_named unnamed, List.map_map]
      rfl

theorem matchEach_grounded {p : Facts.Project} {named : List (Nat × Nat)}
    (bearing : NamedForMethods (interfaces p) named) (confidence : Float) :
    Grounded p (matchEach confidence named (structs p) (interfaces p)) where
  declared m mem := by
    obtain ⟨⟨s, si⟩, hs, here⟩ := List.mem_flatMap.mp mem
    obtain ⟨strategy, c, some, part, methods, matched⟩ := matchStruct_eq bearing confidence s si
    dsimp only at here
    rw [matched] at here
    obtain ⟨i, hi, rfl⟩ := List.mem_map.mp here
    exact ⟨s, List.fst_mem_of_mem_zipIdx hs, i, part.subset hi, methods i hi, rfl⟩
  once structIds interfaceIds := by
    have structsApart : (structs p).zipIdx.Pairwise fun x y => x.1.id ≠ y.1.id := by
      rwa [← List.zipIdx_map_fst 0 (structs p), List.map_map, List.Nodup, List.pairwise_map]
        at structIds
    simp only [matchEach, List.map_flatMap]
    rw [List.Nodup, List.pairwise_flatMap]
    constructor
    · rintro ⟨s, si⟩ -
      obtain ⟨strategy, c, some, part, -, matched⟩ := matchStruct_eq bearing confidence s si
      have ids : (some.map TypeRef.id).Nodup := interfaceIds.sublist (part.map TypeRef.id)
      rw [List.Nodup, List.pairwise_map] at ids
      rw [matched, List.map_map, List.pairwise_map]
      exact ids.imp fun apart same => apart (congrArg Prod.snd same)
    · -- The struct tells the implementations of different structs apart.
      apply structsApart.imp
      rintro ⟨s, si⟩ ⟨s', si'⟩ apart x hx y hy rfl
      obtain ⟨_, _, some, -, -, matched⟩ := matchStruct_eq bearing confidence s si
      obtain ⟨_, _, some', -, -, matched'⟩ := matchStruct_eq bearing confidence s' si'
      simp only [matched, matched', List.map_map, List.mem_map] at hx hy
      obtain ⟨i, -, rfl⟩ := hx
      obtain ⟨i', -, same⟩ := hy
      exact apart (congrArg Prod.fst same).symm

theorem matchHeuristic_grounded (p : Facts.Project) :
    Grounded p (matchHeuristic p).implementations := by
  have none : NamedForMethods (interfaces p) [] := fun _ _ mem => by cases mem
  have grounded := matchEach_grounded none Confidence.heuristic
  rwa [matchEach_nil] at grounded

theorem matchWithOracle_grounded (policy : Policy) (oracle : Oracle) (p : Facts.Project) (w : World) :
    Grounded p (matchWithOracle policy oracle p w).1.implementations := by
  obtain ⟨reason, w', run⟩ | ⟨named, w', run, -, once, told⟩ := matchWithOracle_cases policy oracle p w
  · rw [run]
    exact matchHeuristic_grounded p
  · rw [run, combine_implementations once fun x mem => ((told x.1 x.2).mp mem).lt_length]
    apply matchEach_grounded
    intro si ii mem
    obtain ⟨i, -, -, there, methods, -⟩ := (told si ii).mp mem
    exact ⟨i, there, methods⟩

end ArchAtlas.Matching
