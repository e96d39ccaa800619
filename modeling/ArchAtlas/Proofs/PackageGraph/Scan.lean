import ArchAtlas.PackageGraph
import ArchAtlas.Proofs.Distinct
import ArchAtlas.Proofs.Table

/-!
The pass over the imports of all packages. It keeps the edges, the place of each pair of nodes among
them and the statements met; node by node, its edges are those that the different statements of the
node's package give.

* `resolve?`, `statements` and `edgesFrom` say where imports lead and which edges a node has, by search
  and by count;
* `Scan.Tallies.meet`, `Scan.tallies_foldl`: what the pass keeps, at one statement and over all;
* `importEdges_eq`: the edges of the pass are those of the nodes, one after the other.
-/

namespace ArchAtlas.PackageGraph

/-- The node that an import path leads to: the one with that id, or else the first whose package has
that path. -/
def resolve? (owners : List (String × Facts.Package)) (path : String) : Option Nat :=
  (owners.findIdx? fun o => o.1 = path) <|> (owners.findIdx? fun o => o.2.path = path)

/-- The node that an import leads to from another node. Imports of the standard library lead nowhere. -/
def importTarget? (language : Language) (owners : List (String × Facts.Package)) (source : Nat)
    (i : Facts.Import) : Option Nat :=
  if language.isStandard i.path then none
  else (resolve? owners i.path).filter (· ≠ source)

/-- The different import statements of a node's package that lead to other nodes, in order. -/
def statements (language : Language) (owners : List (String × Facts.Package)) (source : Nat)
    (p : Facts.Package) : List (Nat × Statement) :=
  (p.imports.filterMap fun i =>
    (importTarget? language owners source i).map fun target => (target, .ofImport i)).eraseDups

/-- The edges from one node, in the order of the first statement for each. -/
def edgesFrom (language : Language) (owners : List (String × Facts.Package))
    (source : (String × Facts.Package) × Nat) : List Dependency :=
  let found := statements language owners source.2 source.1.2
  (found.map Prod.fst).eraseDups.map fun target =>
    { source := source.1.1
      target := idAt owners target
      strength := (found.countP fun s => s.1 = target).toUInt32 }

variable {language : Language} {owners : List (String × Facts.Package)}

/-- The table of known paths leads where the search does. -/
theorem known_get? (nodup : (owners.map Prod.fst).Nodup) (path : String) :
    (known owners).get? path = resolve? owners path := by
  have byId := (Table.Places.ofList nodup).get?_eq_findIdx? path
  rw [resolve?, Option.orElse_eq_orElse, Option.orElse_eq_or, ← byId]
  exact Table.get?_insertNew_zipIdx owners (fun o => o.2.path) _ path

/-! ## Statement by statement -/

def edgeOf (owners : List (String × Facts.Package)) (found : List ((Nat × Nat) × Statement))
    (ends : Nat × Nat) : Dependency :=
  ⟨idAt owners ends.1, idAt owners ends.2, (found.countP fun s => s.1 = ends).toUInt32⟩

theorem edgeOf_append (found : List ((Nat × Nat) × Statement)) (new : (Nat × Nat) × Statement)
    (ends : Nat × Nat) :
    edgeOf owners (found ++ [new]) ends =
      if ends = new.1 then
        { edgeOf owners found ends with strength := (edgeOf owners found ends).strength + 1 }
      else edgeOf owners found ends := by
  by_cases same : ends = new.1
  · simp [edgeOf, same, UInt32.ofNat_add]
  · simp [edgeOf, same, Ne.symm same]

namespace Scan

/-- What the pass has after different statements: it knows them, and of the nodes that they join each
pair has one edge, found at its place, whose strength counts the statements. -/
structure Tallies (owners : List (String × Facts.Package)) (found : List ((Nat × Nat) × Statement))
    (s : Scan) : Prop where
  statements : ∀ x, x ∈ s.statements ↔ x ∈ found
  places : s.edges.places.Places (found.map Prod.fst).eraseDups
  edges : s.edges.items = (found.map Prod.fst).eraseDups.map (edgeOf owners found)

variable {found : List ((Nat × Nat) × Statement)} {s : Scan}

theorem Tallies.initial : Tallies owners [] initial where
  statements _ := Iff.rfl
  places := .empty
  edges := rfl

theorem Tallies.meet (h : Tallies owners found s) (new : (Nat × Nat) × Statement) :
    Tallies owners (if new ∈ found then found else found ++ [new]) (s.meet owners new) := by
  unfold Scan.meet
  by_cases old : new ∈ found
  · rwa [if_pos old, if_pos ((h.statements new).mpr old)]
  rw [if_neg old, if_neg (mt (h.statements new).mp old)]
  have keys : ((found ++ [new]).map Prod.fst).eraseDups =
      if new.1 ∈ found.map Prod.fst then (found.map Prod.fst).eraseDups
      else (found.map Prod.fst).eraseDups ++ [new.1] := by
    rw [List.map_append, List.map_singleton, eraseDups_append_singleton]
  have listed : ∀ x, x ∈ new :: s.statements ↔ x ∈ found ++ [new] := by
    intro x
    simp [h.statements x, or_comm]
  rcases Roster.put_cases h.places new.1 ⟨idAt owners new.1.1, idAt owners new.1.2, 1⟩
      (fun e => { e with strength := e.strength + 1 }) with ⟨i, joined, place, put⟩ | ⟨apart, put⟩
  · rw [put]
    rw [if_pos (List.mem_eraseDups.mp joined)] at keys
    have places : s.edges.places.Places ((found.map Prod.fst).eraseDups.map id) := by
      rw [List.map_id]
      exact h.places
    refine ⟨listed, keys ▸ h.places, ?_⟩
    rw [keys, h.edges, places.modify place]
    exact List.map_congr_left fun ends _ => (edgeOf_append found new ends).symm
  · rw [put]
    rw [if_neg (mt List.mem_eraseDups.mpr apart)] at keys
    have places := h.places.push apart
    rw [← List.length_map (edgeOf owners found), ← h.edges] at places
    have others : ∀ ends ∈ (found.map Prod.fst).eraseDups,
        edgeOf owners found ends = edgeOf owners (found ++ [new]) ends := by
      intro ends mem
      have other : ends ≠ new.1 := fun same => apart (same ▸ mem)
      rw [edgeOf_append, if_neg other]
    have none : (found.countP fun s => s.1 = new.1) = 0 := by
      rw [List.countP_eq_zero]
      intro x mem same
      exact apart (List.mem_eraseDups.mpr (of_decide_eq_true same ▸ List.mem_map_of_mem mem))
    refine ⟨listed, keys ▸ places, ?_⟩
    rw [keys, List.map_append, h.edges, List.map_congr_left others, List.map_singleton, edgeOf_append,
      if_pos rfl]
    simp [edgeOf, none]

theorem tallies_foldl (owners : List (String × Facts.Package))
    (found : List ((Nat × Nat) × Statement)) :
    Tallies owners found.eraseDups (found.foldl (Scan.meet owners) initial) := by
  induction found using List.reverseRecOn with
  | nil => exact .initial
  | append_singleton found new ih =>
    rw [List.foldl_append, List.foldl_cons, List.foldl_nil, eraseDups_append_singleton]
    simpa only [List.mem_eraseDups] using ih.meet new

/-- An import is met as a statement if it leads to another node. -/
theorem read_eq (nodup : (owners.map Prod.fst).Nodup) (source : Nat) (s : Scan)
    (i : Facts.Import) :
    s.read language owners (known owners) source i =
      ((importTarget? language owners source i).map fun target =>
        ((source, target), Statement.ofImport i)).elim s (s.meet owners) := by
  rw [read, importTarget?, known_get? nodup]
  by_cases standard : language.isStandard i.path
  · rw [if_pos standard, if_pos standard]
    rfl
  · rw [if_neg standard, if_neg standard]
    cases resolve? owners i.path with
    | none => rfl
    | some target =>
      by_cases same : source = target
      · simp [same, Option.filter_some]
      · simp [same, Ne.symm same, Option.filter_some]

end Scan

/-! ## Node by node -/

def met (language : Language) (owners : List (String × Facts.Package))
    (o : (String × Facts.Package) × Nat) : List ((Nat × Nat) × Statement) :=
  o.1.2.imports.filterMap fun i =>
    (importTarget? language owners o.2 i).map fun target => ((o.2, target), .ofImport i)

theorem importEdges_eq_meet (nodup : (owners.map Prod.fst).Nodup) :
    importEdges language owners =
      ((owners.zipIdx.flatMap (met language owners)).foldl (Scan.meet owners) .initial).edges.items := by
  have node : ∀ (s : Scan) (o : (String × Facts.Package) × Nat),
      o.1.2.imports.foldl (Scan.read language owners (known owners) o.2) s =
        (met language owners o).foldl (Scan.meet owners) s := by
    intro s o
    rw [met, List.foldl_filterMap]
    congr 1
    funext s i
    rw [Scan.read_eq nodup]
    cases importTarget? language owners o.2 i <;> rfl
  simp only [importEdges, node, List.foldl_flatMap]

theorem met_source {o : (String × Facts.Package) × Nat} {x : (Nat × Nat) × Statement}
    (h : x ∈ met language owners o) : x.1.1 = o.2 := by
  obtain ⟨i, -, found⟩ := List.mem_filterMap.mp h
  obtain ⟨target, -, rfl⟩ := Option.map_eq_some_iff.mp found
  rfl

/-- The statements met at a node are those of its package, with the place of the node. -/
theorem eraseDups_met (o : (String × Facts.Package) × Nat) :
    (met language owners o).eraseDups =
      (statements language owners o.2 o.1.2).map fun s => ((o.2, s.1), s.2) := by
  have marked : met language owners o =
      (o.1.2.imports.filterMap fun i => (importTarget? language owners o.2 i).map
        fun target => (target, Statement.ofImport i)).map fun s => ((o.2, s.1), s.2) := by
    rw [met, List.map_filterMap]
    simp only [Option.map_map, Function.comp_def]
  rw [statements, marked, map_eraseDups_of_injOn]
  intro x _ y _ same
  obtain ⟨ends, statement⟩ := Prod.mk.inj same
  exact Prod.ext (Prod.mk.inj ends).2 statement

theorem edgesFrom_eq_map_edgeOf {o : (String × Facts.Package) × Nat} (here : owners[o.2]? = some o.1)
    {found : List ((Nat × Nat) × Statement)}
    (own : found.filter (fun s => s.1.1 = o.2) =
      (statements language owners o.2 o.1.2).map fun s => ((o.2, s.1), s.2)) :
    edgesFrom language owners o =
      (((statements language owners o.2 o.1.2).map fun s => ((o.2, s.1), s.2)).map
        Prod.fst).eraseDups.map (edgeOf owners found) := by
  have ends : (((statements language owners o.2 o.1.2).map fun s => ((o.2, s.1), s.2)).map
      Prod.fst).eraseDups =
        ((statements language owners o.2 o.1.2).map Prod.fst).eraseDups.map fun t => (o.2, t) := by
    rw [map_eraseDups_of_injOn fun s _ t _ same => (Prod.mk.inj same).2, List.map_map, List.map_map]
    rfl
  rw [ends, List.map_map]
  apply List.map_congr_left
  intro target _
  have counted : (found.countP fun s => s.1 = (o.2, target)) =
      (statements language owners o.2 o.1.2).countP fun s => s.1 = target := by
    calc (found.countP fun s => s.1 = (o.2, target))
      _ = (found.filter (fun s => s.1.1 = o.2)).countP fun s => s.1.2 = target := by
        rw [List.countP_filter]
        congr 1
        funext s
        simp [Prod.ext_iff, Bool.and_comm]
      _ = _ := by
        rw [own, List.countP_map]
        rfl
  simp only [Function.comp, edgeOf, counted, idAt, here, Option.elim_some]

/-- The edges of the pass are those of the nodes, node by node. -/
theorem importEdges_eq (nodup : (owners.map Prod.fst).Nodup) :
    importEdges language owners = owners.zipIdx.flatMap (edgesFrom language owners) := by
  have places : (owners.zipIdx.map Prod.snd).Nodup := by
    rw [List.zipIdx_map_snd]
    exact List.nodup_range'
  have met_eq : (owners.zipIdx.flatMap (met language owners)).eraseDups =
      owners.zipIdx.flatMap fun o =>
        (statements language owners o.2 o.1.2).map fun s => ((o.2, s.1), s.2) := by
    rw [eraseDups_flatMap_of_label (fun x : (Nat × Nat) × Statement => x.1.1) places
      fun o _ x => met_source]
    simp only [eraseDups_met]
  rw [importEdges_eq_meet nodup, (Scan.tallies_foldl owners _).edges, met_eq, List.map_flatMap,
    eraseDups_flatMap_of_label Prod.fst places, List.map_flatMap]
  · apply List.flatMap_congr
    intro o mem
    refine (edgesFrom_eq_map_edgeOf (List.mem_zipIdx_iff_getElem?.mp mem) ?_).symm
    refine filter_flatMap_of_label (fun x : (Nat × Nat) × Statement => x.1.1) places ?_ mem
    intro o _ x hx
    obtain ⟨s, -, rfl⟩ := List.mem_map.mp hx
    rfl
  · intro o _ x hx
    obtain ⟨_, hs, rfl⟩ := List.mem_map.mp hx
    obtain ⟨s, -, rfl⟩ := List.mem_map.mp hs
    rfl

end ArchAtlas.PackageGraph
