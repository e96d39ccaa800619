import ArchAtlas.Proofs.PackageGraph
import Mathlib.Data.Finset.Card

/-!
Which edges the package layer has. The imports of a package are resolved to nodes by their places; read
by the ids of the nodes, there is an edge for every other node that an import leads to, it counts the
different statements among those imports, and edges come in the order of the imports.

* `owner?` and `destination?` say what owns a node and where an import leads, by ids alone;
* `edgesFrom_eq`: the edges from one node, by ids;
* `build_edges`: so are all edges;
* `ImportsFaithful` gathers what nodes and edges there are.
-/

namespace ArchAtlas.PackageGraph

/-- The package that owns the node with an id: the first with that id. -/
def owner? (p : Facts.Project) (id : String) : Option Facts.Package :=
  p.packages.find? fun pkg => packageId p.moduleName pkg = id

/-- The id of the node that an import leads to. What belongs to the standard library leads nowhere;
otherwise the path of the import is the id of the node, or else that of the first node with the path. -/
def destination? (language : Language) (nodes : List PackageNode) (i : Facts.Import) :
    Option String :=
  if language.isStandard i.path then none
  else if i.path ∈ nodes.map PackageNode.id then some i.path
  else (nodes.find? fun n => n.name = i.path).map PackageNode.id

/-- What tells import statements apart: path, local name, file and first line. -/
def importKey (i : Facts.Import) : String × Option String × Option String × Option UInt32 :=
  (i.path, i.localName, i.location.map Span.file, i.location.map Span.startLine)

theorem ofImport_eq_ofImport {i j : Facts.Import} :
    Statement.ofImport i = Statement.ofImport j ↔ importKey i = importKey j := by
  cases hi : i.location <;> cases hj : j.location <;>
    simp [Statement.ofImport, importKey, Span.place, hi, hj]

/-! ## Nodes -/

section

variable {p : Facts.Project}

theorem owners_eq :
    owners p = (firstBy (packageId p.moduleName) p.packages).map fun pkg =>
      (packageId p.moduleName pkg, pkg) := by
  unfold owners
  generalize p.packages = packages
  induction packages using List.reverseRecOn with
  | nil => rfl
  | append_singleton packages pkg ih =>
    rw [List.foldl_append, List.foldl_cons, List.foldl_nil, ih, firstBy_append_singleton]
    have known : (((firstBy (packageId p.moduleName) packages).map fun pkg =>
        (packageId p.moduleName pkg, pkg)).any fun o => o.1 = packageId p.moduleName pkg) = true ↔
          packageId p.moduleName pkg ∈
            (firstBy (packageId p.moduleName) packages).map (packageId p.moduleName) := by
      simp
    simp only [known]
    split
    · rfl
    · rw [List.map_append, List.map_singleton]

/-- A package owns a node if it is the first with the node's id. -/
theorem mem_owners_iff {x : String} {pkg : Facts.Package} :
    (x, pkg) ∈ owners p ↔ owner? p x = some pkg := by
  have owned : ∀ {x pkg}, (x, pkg) ∈ owners p → owner? p x = some pkg := by
    intro x pkg mem
    rw [owners_eq] at mem
    obtain ⟨first, kept, same⟩ := List.mem_map.mp mem
    obtain ⟨rfl, rfl⟩ := Prod.mk.inj same
    exact find?_of_mem_firstBy kept
  refine ⟨owned, fun found => ?_⟩
  have holds : packageId p.moduleName pkg = x := by simpa using List.find?_some found
  have known : x ∈ (owners p).map Prod.fst := by
    rw [owners_ids, List.mem_eraseDups, ← holds]
    exact List.mem_map_of_mem (List.mem_of_find?_eq_some found)
  obtain ⟨⟨y, first⟩, mem, rfl⟩ := List.mem_map.mp known
  have same : some first = some pkg := (owned mem).symm.trans found
  rwa [← Option.some.inj same]

end

/-! ## The edges from one node -/

section

variable {language : Language} {owners : List (String × Facts.Package)} {source target : Nat}
variable {o : String × Facts.Package} {i : Facts.Import}

theorem destination?_eq :
    destination? language (owners.map node) i =
      if language.isStandard i.path then none
      else ((resolve? owners i.path).bind (owners[·]?)).map Prod.fst := by
  have ids : (owners.map node).map PackageNode.id = owners.map Prod.fst := by
    rw [List.map_map]
    rfl
  unfold destination? resolve?
  rw [ids]
  split
  · rfl
  · rw [Option.orElse_eq_orElse, Option.orElse_eq_or]
    split
    · rename_i mem
      obtain ⟨o, mem, same⟩ := List.mem_map.mp mem
      obtain ⟨found, first⟩ := Option.isSome_iff_exists.mp
        (List.find?_isSome (p := fun o => decide (o.1 = i.path)) |>.mpr ⟨o, mem, by simpa using same⟩)
      have holds : found.1 = i.path := by simpa using List.find?_some first
      rw [List.find?_eq_bind_findIdx?_getElem?] at first
      obtain ⟨t, place, here⟩ := Option.bind_eq_some_iff.mp first
      rw [place, Option.some_or, Option.bind_some, here, Option.map_some, holds]
    · rename_i absent
      have none : owners.findIdx? (fun o => o.1 = i.path) = none := by
        rw [List.findIdx?_eq_none_iff]
        intro o mem
        simpa using fun same => absent (List.mem_map.mpr ⟨o, mem, same⟩)
      rw [none, Option.none_or, ← List.find?_eq_bind_findIdx?_getElem?, List.find?_map, Option.map_map]
      rfl

theorem idAt_eq {t : Nat} (h : owners[t]? = some o) : idAt owners t = o.1 := by
  rw [idAt, h]
  rfl

theorem idAt_inj (nodup : (owners.map Prod.fst).Nodup) {s t : Nat} (hs : s < owners.length)
    (ht : t < owners.length) (same : idAt owners s = idAt owners t) : s = t := by
  have place : ∀ {t}, t < owners.length → (owners.map Prod.fst)[t]? = some (idAt owners t) := by
    intro t bound
    rw [List.getElem?_map, idAt_eq (List.getElem?_eq_getElem bound), List.getElem?_eq_getElem bound]
    rfl
  have first := idxOf?_of_getElem? nodup (place hs)
  rw [same, idxOf?_of_getElem? nodup (place ht)] at first
  exact (Option.some.inj first).symm

/-- The place that an import leads to is that of its destination, unless that is the source itself. -/
theorem map_idAt_importTarget? (nodup : (owners.map Prod.fst).Nodup)
    (here : owners[source]? = some o) (language : Language) (i : Facts.Import) :
    (importTarget? language owners source i).map (idAt owners) =
      (destination? language (owners.map node) i).filter (· ≠ o.1) := by
  rw [destination?_eq, importTarget?]
  split
  · rfl
  · cases found : resolve? owners i.path with
    | none => rfl
    | some t =>
      have bound := resolve?_lt found
      have there := List.getElem?_eq_getElem bound
      obtain ⟨inside, -⟩ := List.getElem?_eq_some_iff.mp here
      have apart : t ≠ source ↔ owners[t].1 ≠ o.1 := by
        rw [← idAt_eq there, ← idAt_eq here]
        exact ⟨fun ne same => ne (idAt_inj nodup bound inside same), fun ne same => ne (same ▸ rfl)⟩
      rw [Option.bind_some, there, Option.map_some, Option.filter_some, Option.filter_some]
      by_cases same : t = source
      · have back : ¬ owners[t].1 ≠ o.1 := fun ne => apart.mpr ne same
        rw [if_neg (by simpa using same), if_neg (by simpa using back)]
        rfl
      · rw [if_pos (by simpa using same), if_pos (by simpa using apart.mp same), Option.map_some,
          idAt_eq there]

/-- Of the imports, those lead to a place whose destination is the id there. -/
theorem importTarget?_eq_some_iff (nodup : (owners.map Prod.fst).Nodup)
    (here : owners[source]? = some o) (bound : target < owners.length) (apart : target ≠ source) :
    importTarget? language owners source i = some target ↔
      destination? language (owners.map node) i = some (idAt owners target) := by
  have names := map_idAt_importTarget? nodup here language i
  obtain ⟨inside, -⟩ := List.getElem?_eq_some_iff.mp here
  have other : idAt owners target ≠ o.1 := by
    rw [← idAt_eq here]
    exact fun same => apart (idAt_inj nodup bound inside same)
  constructor
  · intro found
    rw [found, Option.map_some] at names
    exact (Option.filter_eq_some_iff.mp names.symm).1
  · intro found
    rw [found, Option.filter_some, if_pos (by simpa using other)] at names
    obtain ⟨t, leads, same⟩ := Option.map_eq_some_iff.mp names
    rw [leads, idAt_inj nodup (importTarget?_spec leads).1 bound same]

/-- The different statements that lead to a place, counted. -/
theorem countP_statements (nodup : (owners.map Prod.fst).Nodup)
    (here : owners[source]? = some o) (bound : target < owners.length) (apart : target ≠ source) :
    ((statements language owners source o.2).countP fun s => s.1 = target) =
      ((o.2.imports.filter fun i =>
        destination? language (owners.map node) i = some (idAt owners target)).map
          importKey).toFinset.card := by
  unfold statements
  set pairs := o.2.imports.filterMap fun i =>
    (importTarget? language owners source i).map fun target => (target, Statement.ofImport i)
  have selected : (pairs.filter fun s => s.1 = target) =
      (o.2.imports.filter fun i =>
        destination? language (owners.map node) i = some (idAt owners target)).map
          fun i => (target, Statement.ofImport i) := by
    rw [List.filter_filterMap, ← List.filterMap_eq_map, List.filterMap_filter]
    apply List.filterMap_congr
    intro i _
    by_cases leads : importTarget? language owners source i = some target
    · have := (importTarget?_eq_some_iff nodup here bound apart).mp leads
      simp [leads, this]
    · have := mt (importTarget?_eq_some_iff nodup here bound apart).mpr leads
      cases found : importTarget? language owners source i with
      | none => simp [this]
      | some t =>
        have other : t ≠ target := fun same => leads (same ▸ found)
        simp [this, other]
  calc (pairs.eraseDups.countP fun s => s.1 = target)
    _ = (pairs.eraseDups.filter fun s => s.1 = target).toFinset.card := by
      rw [List.countP_eq_length_filter, List.toFinset_card_of_nodup ((nodup_eraseDups _).filter _)]
    _ = (pairs.filter fun s => s.1 = target).toFinset.card := by
      congr 1
      ext s
      simp
    _ = _ := by
      rw [selected]
      exact card_toFinset_map_congr (fun i j => by simp [ofImport_eq_ofImport]) _

def edgesOf (language : Language) (nodes : List PackageNode) (o : String × Facts.Package) :
    List Dependency :=
  (o.2.imports.filterMap fun i => (destination? language nodes i).filter (· ≠ o.1)).eraseDups.map
    fun y =>
      { source := o.1
        target := y
        strength := .ofNat ((o.2.imports.filter fun i =>
          destination? language nodes i = some y).map importKey).toFinset.card }

theorem edgesFrom_eq (nodup : (owners.map Prod.fst).Nodup) (here : owners[source]? = some o) :
    edgesFrom language owners (o, source) = edgesOf language (owners.map node) o := by
  set targets := o.2.imports.filterMap (importTarget? language owners source)
  have places : ((statements language owners source o.2).map Prod.fst).eraseDups =
      targets.eraseDups := by
    rw [statements, eraseDups_map_eraseDups, List.map_filterMap]
    simp only [Option.map_map, Function.comp_def, Option.map_id_fun']
    rfl
  have reached : ∀ t ∈ targets, t < owners.length ∧ t ≠ source := by
    intro t mem
    obtain ⟨i, -, found⟩ := List.mem_filterMap.mp mem
    exact importTarget?_spec found
  have names : targets.eraseDups.map (idAt owners) =
      (o.2.imports.filterMap fun i =>
        (destination? language (owners.map node) i).filter (· ≠ o.1)).eraseDups := by
    rw [map_eraseDups_of_injOn fun s hs t ht => idAt_inj nodup (reached s hs).1 (reached t ht).1,
      List.map_filterMap]
    simp only [map_idAt_importTarget? nodup here]
  simp only [edgesFrom, edgesOf, places, ← names, List.map_map]
  apply List.map_congr_left
  intro t mem
  obtain ⟨bound, apart⟩ := reached t (List.mem_eraseDups.mp mem)
  rw [countP_statements nodup here bound apart]
  rfl

end

/-! ## All edges -/

variable (config : Config.Cycles) (p : Facts.Project)

theorem build_edges :
    (build config p).edges = (owners p).flatMap (edgesOf p.language (build config p).nodes) := by
  have each : ∀ q ∈ (owners p).zipIdx, edgesFrom p.language (owners p) q =
      edgesOf p.language (build config p).nodes q.1 := by
    rintro ⟨o, source⟩ mem
    exact edgesFrom_eq (owners_ids_nodup p) (List.mem_zipIdx_iff_getElem?.mp mem)
  calc (build config p).edges
    _ = (owners p).zipIdx.flatMap (edgesFrom p.language (owners p)) := build_edges_eq_flatMap config p
    _ = (owners p).zipIdx.flatMap fun q => edgesOf p.language (build config p).nodes q.1 :=
      List.flatMap_congr each
    _ = ((owners p).zipIdx.map Prod.fst).flatMap (edgesOf p.language (build config p).nodes) := by
      rw [List.flatMap_map]
    _ = _ := by rw [List.zipIdx_map_fst]

/-- The imports of a node's package that lead to a node. -/
def leading (p : Facts.Project) (g : PackageGraph) (source target : String) : List Facts.Import :=
  (((owner? p source).map Facts.Package.imports).getD []).filter fun i =>
    destination? p.language g.nodes i = some target

/-- The place of the first import of a node's package that leads to a node. -/
def firstLeading (p : Facts.Project) (g : PackageGraph) (source target : String) : Nat :=
  (((owner? p source).map Facts.Package.imports).getD []).findIdx fun i =>
    destination? p.language g.nodes i = some target

theorem mem_edgesOf {language : Language} {nodes : List PackageNode} {o : String × Facts.Package}
    {e : Dependency} (h : e ∈ edgesOf language nodes o) :
    e.source = o.1 ∧ e.target ≠ o.1 ∧
      (∃ i ∈ o.2.imports, destination? language nodes i = some e.target) ∧
      e.strength = .ofNat ((o.2.imports.filter fun i =>
        destination? language nodes i = some e.target).map importKey).toFinset.card := by
  obtain ⟨y, mem, rfl⟩ := List.mem_map.mp h
  obtain ⟨i, inside, leads⟩ := List.mem_filterMap.mp (List.mem_eraseDups.mp mem)
  obtain ⟨leads, apart⟩ := Option.filter_eq_some_iff.mp leads
  exact ⟨rfl, by simpa using apart, ⟨i, inside, leads⟩, rfl⟩

theorem exists_mem_edgesOf {language : Language} {nodes : List PackageNode}
    {o : String × Facts.Package} {y : String} {i : Facts.Import} (inside : i ∈ o.2.imports)
    (leads : destination? language nodes i = some y) (apart : y ≠ o.1) :
    ∃ e ∈ edgesOf language nodes o, e.source = o.1 ∧ e.target = y := by
  refine ⟨_, List.mem_map_of_mem (List.mem_eraseDups.mpr (List.mem_filterMap.mpr ⟨i, inside, ?_⟩)),
    rfl, rfl⟩
  exact Option.filter_eq_some_iff.mpr ⟨leads, by simpa using apart⟩

theorem edgesOf_ordered (language : Language) (nodes : List PackageNode)
    (o : String × Facts.Package) :
    (edgesOf language nodes o).Pairwise fun e f =>
      o.2.imports.findIdx (fun i => destination? language nodes i = some e.target) <
        o.2.imports.findIdx (fun i => destination? language nodes i = some f.target) := by
  rw [edgesOf, List.pairwise_map]
  apply (eraseDups_filterMap_ordered _ _).imp_of_mem
  -- For another node than the source, the filter changes nothing.
  have same : ∀ y ∈ (o.2.imports.filterMap fun i =>
      (destination? language nodes i).filter (· ≠ o.1)).eraseDups, ∀ i,
      (destination? language nodes i).filter (· ≠ o.1) = some y ↔
        destination? language nodes i = some y := by
    intro y mem i
    obtain ⟨j, -, leads⟩ := List.mem_filterMap.mp (List.mem_eraseDups.mp mem)
    have apart := (Option.filter_eq_some_iff.mp leads).2
    rw [Option.filter_eq_some_iff]
    exact and_iff_left apart
  intro y z hy hz less
  simpa only [same y hy, same z hz] using less

/-- The nodes and edges of a package layer are those of a project. There is a node for each id, in the
order of their first packages, and of these packages it tells; there is an edge from one node to another
just where an import of the one's package leads to the other, and only one; its strength is the number
of different statements among these imports; and edges come in the order of the nodes they leave, and
then of the first of these imports. -/
structure ImportsFaithful (p : Facts.Project) (g : PackageGraph) : Prop where
  ids : g.nodes.map PackageNode.id = (p.packages.map (packageId p.moduleName)).eraseDups
  owned : ∀ n ∈ g.nodes, ∃ pkg, owner? p n.id = some pkg ∧ n = node (n.id, pkg)
  imports_iff : ∀ x y, g.Imports x y ↔ x ≠ y ∧ leading p g x y ≠ []
  single : (g.edges.map fun e => (e.source, e.target)).Nodup
  strength : ∀ e ∈ g.edges,
    e.strength.toNat = ((leading p g e.source e.target).map importKey).toFinset.card
  ordered : g.edges.Pairwise fun e f =>
    (g.nodes.map PackageNode.id).idxOf e.source < (g.nodes.map PackageNode.id).idxOf f.source ∨
      e.source = f.source ∧ firstLeading p g e.source e.target < firstLeading p g f.source f.target

section

variable {config p}

theorem mem_build_edges {e : Dependency} :
    e ∈ (build config p).edges ↔
      ∃ pkg, owner? p e.source = some pkg ∧
        e ∈ edgesOf p.language (build config p).nodes (e.source, pkg) := by
  rw [build_edges, List.mem_flatMap]
  constructor
  · rintro ⟨⟨x, pkg⟩, mem, inside⟩
    obtain rfl : e.source = x := (mem_edgesOf inside).1
    exact ⟨pkg, mem_owners_iff.mp mem, inside⟩
  · rintro ⟨pkg, owned, inside⟩
    exact ⟨_, mem_owners_iff.mpr owned, inside⟩

theorem build_imports_iff (x y : String) :
    (build config p).Imports x y ↔ x ≠ y ∧ leading p (build config p) x y ≠ [] := by
  constructor
  · rintro ⟨e, mem, rfl, rfl⟩
    obtain ⟨pkg, owned, inside⟩ := mem_build_edges.mp mem
    obtain ⟨-, apart, ⟨i, hi, leads⟩, -⟩ := mem_edgesOf inside
    refine ⟨apart.symm, List.ne_nil_of_mem (a := i) ?_⟩
    simp [leading, owned, hi, leads]
  · rintro ⟨apart, some⟩
    obtain ⟨i, mem⟩ := List.exists_mem_of_ne_nil _ some
    obtain ⟨hi, leads⟩ := List.mem_filter.mp mem
    cases owned : owner? p x with
    | none => simp [owned] at hi
    | some pkg =>
      have hi : i ∈ pkg.imports := by simpa [owned] using hi
      obtain ⟨e, inside, rfl, rfl⟩ :=
        exists_mem_edgesOf (o := (x, pkg)) hi (by simpa using leads) apart.symm
      exact ⟨e, mem_build_edges.mpr ⟨pkg, owned, inside⟩, rfl, rfl⟩

end

theorem build_edges_ordered :
    (build config p).edges.Pairwise fun e f =>
      ((build config p).nodes.map PackageNode.id).idxOf e.source <
          ((build config p).nodes.map PackageNode.id).idxOf f.source ∨
        e.source = f.source ∧
          firstLeading p (build config p) e.source e.target <
            firstLeading p (build config p) f.source f.target := by
  have nodes : (owners p).Pairwise fun o o' =>
      ((build config p).nodes.map PackageNode.id).idxOf o.1 <
        ((build config p).nodes.map PackageNode.id).idxOf o'.1 := by
    have places := pairwise_idxOf_of_nodup (owners_ids_nodup p)
    rw [List.pairwise_map] at places
    rwa [build_ids]
  rw [build_edges, List.pairwise_flatMap]
  constructor
  · rintro ⟨x, pkg⟩ mem
    have owned := mem_owners_iff.mp mem
    apply (edgesOf_ordered _ _ _).imp_of_mem
    intro e f he hf less
    have hx : e.source = x := (mem_edgesOf he).1
    have hx' : f.source = x := (mem_edgesOf hf).1
    refine Or.inr ⟨hx.trans hx'.symm, ?_⟩
    simpa only [firstLeading, hx, hx', owned, Option.map_some, Option.getD_some] using less
  · apply nodes.imp
    intro o o' less e he f hf
    rw [(mem_edgesOf he).1, (mem_edgesOf hf).1]
    exact Or.inl less

/-- The package layer has the nodes and the edges that the imports of the project give it, as long as the
strength of an edge can be counted. -/
theorem build_imports_faithful (config : Config.Cycles) (p : Facts.Project)
    (few : ∀ pkg ∈ p.packages, pkg.imports.length < 2 ^ 32) :
    ImportsFaithful p (build config p) := by
  refine ⟨(build_ids config p).trans (owners_ids p), ?_, build_imports_iff, ?_, ?_,
    build_edges_ordered config p⟩
  · intro n mem
    obtain ⟨⟨x, pkg⟩, owns, rfl⟩ := List.mem_map.mp mem
    exact ⟨pkg, mem_owners_iff.mp owns, rfl⟩
  · rw [List.Nodup, List.pairwise_map]
    apply (build_edges_ordered config p).imp
    rintro e f before same
    obtain ⟨source, target⟩ := Prod.mk.inj same
    rw [source, target] at before
    rcases before with less | ⟨-, less⟩ <;> exact Nat.lt_irrefl _ less
  · intro e mem
    obtain ⟨pkg, owned, inside⟩ := mem_build_edges.mp mem
    obtain ⟨-, -, -, strength⟩ := mem_edgesOf inside
    have bound : (((pkg.imports.filter fun i =>
        destination? p.language (build config p).nodes i = some e.target).map
          importKey).toFinset.card) < 2 ^ 32 := by
      refine Nat.lt_of_le_of_lt (List.toFinset_card_le _) ?_
      rw [List.length_map]
      exact Nat.lt_of_le_of_lt (List.length_filter_le _ _)
        (few pkg (List.mem_of_find?_eq_some owned))
    rw [strength, UInt32.toNat_ofNat_of_lt' bound, leading, owned]
    rfl

/-- A package that imports another by its id, twice alike, and once by its path; that imports itself and
the standard library; and of which there is a second one that imports nothing. -/
def spelledTwice : Facts.Project :=
  { Facts.Project.empty with
    moduleName := "m"
    packages := [
      ⟨"", "a", "a", [], [⟨"m/b", none, none⟩, ⟨"b", some "c", none⟩, ⟨"m/b", none, none⟩,
        ⟨"fmt", none, none⟩, ⟨"a", none, none⟩], [], [], []⟩,
      ⟨"", "b", "b", [], [], [], [], []⟩,
      ⟨"", "a", "a", [], [], [], [], []⟩] }

theorem build_imports_faithful_spelledTwice :
    (∀ pkg ∈ spelledTwice.packages, pkg.imports.length < 2 ^ 32) ∧
    (∃ e ∈ (build .default spelledTwice).edges,
      e.source = "m/a" ∧ e.target = "m/b" ∧ e.strength.toNat = 2) ∧
    ¬ (build .default spelledTwice).Imports "m/b" "m/a" := by
  have few : ∀ pkg ∈ spelledTwice.packages, pkg.imports.length < 2 ^ 32 := by decide
  have faithful := build_imports_faithful .default spelledTwice few
  refine ⟨few, ?_, fun imports => ((faithful.imports_iff _ _).mp imports).2 (by decide)⟩
  obtain ⟨e, mem, source, target⟩ := (faithful.imports_iff "m/a" "m/b").mpr (by decide)
  refine ⟨e, mem, source, target, (faithful.strength e mem).trans ?_⟩
  rw [source, target]
  decide

end ArchAtlas.PackageGraph
