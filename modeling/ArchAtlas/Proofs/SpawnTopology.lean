import ArchAtlas.Proofs.Text.Joined
import ArchAtlas.SpawnTopology
import Mathlib.Data.List.Nodup
import Mathlib.Data.List.Perm.Basic

/-!
The ids of tasks. A task is known by the package, the function and the line that starts it, joined to
one text; the first task of every program has the same id.

* `Site` is what the id of a started task is made of, `sites` lists them for a project;
* `ids_perm`, `targets_eq`: the ids of the nodes and the targets of the edges, by functions and sites;
* `Site.taskId_eq_iff`: which sites make the same id;
* `ids_nodup_iff`: ids are distinct exactly when there is one program at most, no two tasks are started
  at one site, and no site can be taken for one of another package.
-/

namespace ArchAtlas.SpawnTopology

/-! ## What ids are made of -/

/-- Where a task is started: the path of the package, the function within it and the line. -/
structure Site where
  package : String
  parent : String
  line : Nat
  deriving DecidableEq, Repr

def Site.owner (s : Site) : String := s.package ++ "." ++ s.parent

def Site.taskId (s : Site) : String := s.owner ++ ".spawn-" ++ toString s.line

def sitesIn (q : Facts.Package) (parent : String) (b : Facts.Body) : List Site :=
  b.spawns.map fun s => ⟨q.path, parent, s.location.startLine.toNat⟩

/-- The name of a function within its package; a method stands behind the type that owns it. -/
def parentName (owner : Option Facts.TypeDecl) (f : Facts.FuncDecl) : String :=
  match owner with
  | none => f.name
  | some t => t.name ++ "." ++ f.name

def sitesOf (q : Facts.Package) : List Site :=
  q.bodies.flatMap fun (owner, f, b) => sitesIn q (parentName owner f) b

def sites (p : Facts.Project) : List Site := p.packages.flatMap sitesOf

/-- The functions where a program begins. -/
def mains (p : Facts.Project) : List Facts.FuncDecl :=
  p.packages.flatMap fun q => q.functions.filter (isMain q)

/-- Two sites in one line whose packages and functions are joined to the same text: what the function of
the first starts with, the package of the second ends with. -/
def Overlapping (p : Facts.Project) : Prop :=
  ∃ path u parent line, ⟨path, u ++ "." ++ parent, line⟩ ∈ sites p ∧
    ⟨path ++ "." ++ u, parent, line⟩ ∈ sites p

theorem Site.taskId_eq_iff {a b : Site} :
    a.taskId = b.taskId ↔ a.owner = b.owner ∧ a.line = b.line := by
  have plain (k : Nat) : '-' ∉ (toString k).toList := Text.not_mem_toString (by decide) k
  have hyphen (s : Site) : s.taskId = (s.owner ++ ".spawn") ++ "-" ++ toString s.line := by
    have tail : ".spawn-" = ".spawn" ++ "-" := rfl
    rw [Site.taskId, tail, ← String.append_assoc]
  constructor
  · intro same
    rw [hyphen, hyphen] at same
    obtain ⟨owners, lines⟩ := Text.hyphen_inj (plain a.line) (plain b.line) same
    exact ⟨(String.append_left_inj _).mp owners, Text.toString_injective lines⟩
  · rintro ⟨owners, lines⟩
    rw [Site.taskId, Site.taskId, owners, lines]

/-- The id of the first task has no point in it. -/
theorem dotted_ne_mainId (s t : String) : s ++ "." ++ t ≠ mainId := by
  intro same
  have point : '.' ∈ mainId.toList := by
    rw [← same, Text.toList_joined (a := '.') rfl]
    simp
  revert point
  decide

theorem Site.taskId_ne_mainId (s : Site) : s.taskId ≠ mainId := by
  have dotted : s.taskId = s.package ++ "." ++ (s.parent ++ ".spawn-" ++ toString s.line) := by
    simp only [Site.taskId, Site.owner, String.append_assoc]
  rw [dotted]
  exact dotted_ne_mainId _ _

/-! ## The nodes and edges of a project -/

theorem foldl_append (ts : List SpawnTopology) (t : SpawnTopology) :
    ts.foldl append t = ⟨t.nodes ++ ts.flatMap nodes, t.edges ++ ts.flatMap edges,
      t.channels ++ ts.flatMap channels⟩ := by
  induction ts generalizing t with
  | nil => simp
  | cons s ts ih => simp [ih, append]

section

variable {q : Facts.Package} {parent source : String} {body : Option Facts.Body}

theorem ids_ofBody :
    ((body.elim empty (ofBody q parent source)).nodes.map TaskNode.id) =
      (body.elim [] (sitesIn q parent)).map Site.taskId := by
  cases body with
  | none => rfl
  | some b => simp only [Option.elim_some, ofBody, sitesIn, List.map_map]; rfl

theorem targets_ofBody :
    ((body.elim empty (ofBody q parent source)).edges.map SpawnEdge.target) =
      (body.elim [] (sitesIn q parent)).map Site.taskId := by
  cases body with
  | none => rfl
  | some b => simp only [Option.elim_some, ofBody, sitesIn, List.map_map]; rfl

theorem source_of_mem_ofBody {e : SpawnEdge}
    (mem : e ∈ (body.elim empty (ofBody q parent source)).edges) : e.source = source := by
  cases body with
  | none => cases mem
  | some b =>
    obtain ⟨s, -, rfl⟩ := List.mem_map.mp mem
    rfl

end

theorem sitesOf_eq (q : Facts.Package) :
    sitesOf q =
      (q.functions.flatMap fun f => f.body.elim [] (sitesIn q f.name)) ++
      q.structs.flatMap fun s => s.methods.flatMap fun m =>
        m.body.elim [] (sitesIn q (s.name ++ "." ++ m.name)) := by
  simp only [sitesOf, Facts.Package.flatMap_bodies, parentName]

/-- Every part of a package's topology, function by function and then method by method. -/
theorem flatMap_ofPackage {β : Type} (part : SpawnTopology → List β) (q : Facts.Package) :
    (q.functions.map (ofFunction q) ++
      q.structs.flatMap fun s => s.methods.map (ofMethod q s)).flatMap part =
    (q.functions.flatMap fun f => part (ofFunction q f)) ++
      q.structs.flatMap fun s => s.methods.flatMap fun m => part (ofMethod q s m) := by
  simp only [List.flatMap_append, List.flatMap_map, List.flatMap_assoc]

theorem nodes_ofPackage (q : Facts.Package) :
    (ofPackage q).nodes = (q.functions.flatMap fun f => (ofFunction q f).nodes) ++
      q.structs.flatMap fun s => s.methods.flatMap fun m => (ofMethod q s m).nodes := by
  rw [← flatMap_ofPackage, ofPackage, foldl_append]
  rfl

theorem edges_ofPackage (q : Facts.Package) :
    (ofPackage q).edges = (q.functions.flatMap fun f => (ofFunction q f).edges) ++
      q.structs.flatMap fun s => s.methods.flatMap fun m => (ofMethod q s m).edges := by
  rw [← flatMap_ofPackage, ofPackage, foldl_append]
  rfl

theorem nodes_build (p : Facts.Project) :
    (build p).nodes = p.packages.flatMap fun q => (ofPackage q).nodes := by
  rw [build, foldl_append]
  exact List.flatMap_map _ _ _

theorem edges_build (p : Facts.Project) :
    (build p).edges = p.packages.flatMap fun q => (ofPackage q).edges := by
  rw [build, foldl_append]
  exact List.flatMap_map _ _ _

theorem ids_ofFunction (q : Facts.Package) (f : Facts.FuncDecl) :
    (ofFunction q f).nodes.map TaskNode.id =
      (if isMain q f then [mainId] else []) ++
        (f.body.elim [] (sitesIn q f.name)).map Site.taskId := by
  change ((if isMain q f then [mainTask q f] else []) ++
    (f.body.elim empty (ofBody q f.name _)).nodes).map TaskNode.id = _
  rw [List.map_append, ids_ofBody]
  congr 1
  split <;> rfl

/-- The ids of a package: one for each function where a program begins, and those of its sites. -/
theorem ids_ofPackage_perm (q : Facts.Package) :
    ((ofPackage q).nodes.map TaskNode.id).Perm
      ((q.functions.filter (isMain q)).map (fun _ => mainId) ++ (sitesOf q).map Site.taskId) := by
  have begins : (q.functions.filter (isMain q)).map (fun _ => mainId) =
      q.functions.flatMap fun f => if isMain q f then [mainId] else [] := by
    induction q.functions with
    | nil => rfl
    | cons f fs ih => by_cases h : isMain q f <;> simp [h, ih]
  have functions := List.flatMap_append_perm q.functions
    (fun f => if isMain q f then [mainId] else [])
    (fun f => (f.body.elim [] (sitesIn q f.name)).map Site.taskId)
  rw [nodes_ofPackage, List.map_append, sitesOf_eq, List.map_append, begins, ← List.append_assoc]
  simp only [List.map_flatMap, ids_ofFunction]
  refine functions.symm.append (.of_eq ?_)
  simp only [ofMethod, ids_ofBody]

theorem ids_perm (p : Facts.Project) :
    ((build p).nodes.map TaskNode.id).Perm
      ((mains p).map (fun _ => mainId) ++ (sites p).map Site.taskId) := by
  rw [nodes_build, mains, sites, List.map_flatMap, List.map_flatMap, List.map_flatMap]
  refine (List.Perm.flatMap_left _ fun q _ => ids_ofPackage_perm q).trans ?_
  exact (List.flatMap_append_perm _ _ _).symm

/-- The edges lead to the sites, in order. -/
theorem targets_eq (p : Facts.Project) :
    (build p).edges.map SpawnEdge.target = (sites p).map Site.taskId := by
  rw [edges_build, sites, List.map_flatMap, List.map_flatMap]
  refine List.flatMap_congr fun q _ => ?_
  rw [edges_ofPackage, sitesOf_eq]
  simp only [List.map_append, List.map_flatMap, ofMethod, targets_ofBody]
  congr 1
  exact List.flatMap_congr fun f _ => targets_ofBody

/-- Only a function where a program begins starts tasks in the name of the first task. -/
theorem mains_ne_nil_of_source {p : Facts.Project} {e : SpawnEdge} (mem : e ∈ (build p).edges)
    (main : e.source = mainId) : mains p ≠ [] := by
  rw [edges_build] at mem
  obtain ⟨q, hq, mem⟩ := List.mem_flatMap.mp mem
  rw [edges_ofPackage] at mem
  rcases List.mem_append.mp mem with mem | mem
  · obtain ⟨f, hf, mem⟩ := List.mem_flatMap.mp mem
    have source : (if isMain q f then mainId else q.path ++ "." ++ f.name) = mainId :=
      (source_of_mem_ofBody mem).symm.trans main
    have begins : isMain q f = true := by
      by_contra other
      rw [if_neg other] at source
      exact dotted_ne_mainId _ _ source
    exact List.ne_nil_of_mem
      (List.mem_flatMap.mpr ⟨q, hq, List.mem_filter.mpr ⟨hf, begins⟩⟩)
  · obtain ⟨s, -, mem⟩ := List.mem_flatMap.mp mem
    obtain ⟨m, -, mem⟩ := List.mem_flatMap.mp mem
    exact absurd ((source_of_mem_ofBody mem).symm.trans main) (dotted_ne_mainId _ _)

/-! ## When ids are distinct -/

/-- Sites can be told from their ids unless two of them overlap. -/
theorem taskId_injOn_iff (p : Facts.Project) :
    (∀ a ∈ sites p, ∀ b ∈ sites p, a.taskId = b.taskId → a = b) ↔ ¬ Overlapping p := by
  constructor
  · rintro inj ⟨path, u, parent, line, first, second⟩
    have same : Site.taskId ⟨path, u ++ "." ++ parent, line⟩ =
        Site.taskId ⟨path ++ "." ++ u, parent, line⟩ := by
      refine Site.taskId_eq_iff.mpr ⟨?_, rfl⟩
      exact (Text.joined_eq_iff rfl).mpr (Or.inr (Or.inl ⟨u, rfl, rfl⟩))
    have packages : path = path ++ "." ++ u :=
      congrArg Site.package (inj _ first _ second same)
    exact Text.joined_ne_left rfl path u packages.symm
  · rintro apart ⟨path, parent, line⟩ first ⟨path', parent', line'⟩ second same
    obtain ⟨owners, lines⟩ := Site.taskId_eq_iff.mp same
    obtain rfl : line = line' := lines
    rcases (Text.joined_eq_iff rfl).mp owners with ⟨packages, parents⟩ | ⟨u, packages, parents⟩ |
      ⟨u, packages, parents⟩
    · obtain rfl : path = path' := packages
      obtain rfl : parent = parent' := parents
      rfl
    · obtain rfl : path' = path ++ "." ++ u := packages
      obtain rfl : parent = u ++ "." ++ parent' := parents
      exact absurd ⟨path, u, parent', line, first, second⟩ apart
    · obtain rfl : path = path' ++ "." ++ u := packages
      obtain rfl : parent' = u ++ "." ++ parent := parents
      exact absurd ⟨path', u, parent, line, second, first⟩ apart

theorem ids_nodup_iff (p : Facts.Project) :
    ((build p).nodes.map TaskNode.id).Nodup ↔
      (mains p).length ≤ 1 ∧ (sites p).Nodup ∧ ¬ Overlapping p := by
  have apart : ∀ a ∈ (mains p).map (fun _ => mainId), ∀ b ∈ (sites p).map Site.taskId, a ≠ b := by
    intro a first b second
    obtain ⟨f, -, rfl⟩ := List.mem_map.mp first
    obtain ⟨s, -, rfl⟩ := List.mem_map.mp second
    exact s.taskId_ne_mainId.symm
  rw [(ids_perm p).nodup_iff, List.nodup_append, List.map_const', List.nodup_replicate,
    ← taskId_injOn_iff]
  constructor
  · rintro ⟨one, nodup, -⟩
    have distinct : (sites p).Nodup := nodup.of_map _
    exact ⟨one, distinct, (List.nodup_map_iff_inj_on distinct).mp nodup⟩
  · rintro ⟨one, distinct, inj⟩
    rw [List.map_const'] at apart
    exact ⟨one, (List.nodup_map_iff_inj_on distinct).mpr inj, apart⟩

/-- The package of an overlapping site has a point in its path. -/
theorem not_overlapping {p : Facts.Project} (plain : ∀ q ∈ p.packages, '.' ∉ q.path.toList) :
    ¬ Overlapping p := by
  rintro ⟨path, u, parent, line, -, second⟩
  obtain ⟨q, hq, mem⟩ := List.mem_flatMap.mp second
  obtain ⟨body, -, mem⟩ := List.mem_flatMap.mp mem
  obtain ⟨s, -, made⟩ := List.mem_map.mp mem
  have package : q.path = path ++ "." ++ u := congrArg Site.package made
  apply plain q hq
  rw [package, Text.toList_joined (a := '.') rfl]
  simp

/-- Exactly one node has the id. -/
def NamesOne (t : SpawnTopology) (id : String) : Prop :=
  t.nodes.countP (fun n => n.id = id) = 1

theorem namesOne_of_nodup {t : SpawnTopology} {id : String} (nodup : (t.nodes.map TaskNode.id).Nodup)
    (mem : id ∈ t.nodes.map TaskNode.id) : NamesOne t id := by
  have one := List.count_eq_one_of_mem nodup mem
  rw [List.count, List.countP_map] at one
  rw [NamesOne, ← one]
  apply List.countP_congr
  intro n _
  simp

/-- The ids of tasks are distinct exactly when the project has one program at most, starts no two tasks
at one site, and has no sites that overlap, as is so where no path has a point. Where they are distinct,
every edge leads to one task, and the id of the first task is that of one wherever an edge begins there. -/
theorem task_ids_distinct (p : Facts.Project) :
    let t := build p
    let ids := t.nodes.map TaskNode.id
    (ids.Nodup ↔ (mains p).length ≤ 1 ∧ (sites p).Nodup ∧ ¬ Overlapping p) ∧
    ((∀ q ∈ p.packages, '.' ∉ q.path.toList) →
      (ids.Nodup ↔ (mains p).length ≤ 1 ∧ (sites p).Nodup)) ∧
    (ids.Nodup → ∀ e ∈ t.edges, NamesOne t e.target ∧ (e.source = mainId → NamesOne t mainId)) := by
  intro t ids
  refine ⟨ids_nodup_iff p, fun plain => ?_, fun nodup e mem => ⟨?_, fun main => ?_⟩⟩
  · have apart := not_overlapping plain
    exact (ids_nodup_iff p).trans (and_congr_right fun _ => and_iff_left apart)
  · apply namesOne_of_nodup nodup
    refine (ids_perm p).mem_iff.mpr (List.mem_append_right _ ?_)
    rw [← targets_eq]
    exact List.mem_map_of_mem mem
  · apply namesOne_of_nodup nodup
    refine (ids_perm p).mem_iff.mpr (List.mem_append_left _ ?_)
    obtain ⟨f, hf⟩ := List.exists_mem_of_ne_nil _ (mains_ne_nil_of_source mem main)
    exact List.mem_map.mpr ⟨f, hf, rfl⟩

/-- A function that starts tasks in some lines. -/
def starting (name : String) (lines : List UInt32) : Facts.FuncDecl :=
  let span (line : UInt32) : Span := ⟨"t.go", line, line⟩
  let spawn (line : UInt32) : Facts.Spawn := ⟨⟨"work", none, none, [], span line⟩, span line⟩
  ⟨name, none, [], [], true, span 1, some ⟨[], lines.map spawn, []⟩⟩

/-- A package with some functions and a type with some methods. -/
def workers (name fullName : String) (functions methods : List Facts.FuncDecl) : Facts.Package :=
  { id := fullName, name, fullName, sourceFiles := [], imports := [], interfaces := [], functions
    structs := [⟨"Pool", name, [], methods, true, ⟨"t.go", 1, 9⟩⟩] }

theorem task_ids_distinct_pool :
    let p := { Facts.Project.empty with
      packages := [workers "main" "cmd/app" [starting "main" [8, 12]] [],
        workers "pool" "pkg/pool" [starting "Start" [8]] [starting "Start" [8, 30]]] }
    let t := build p
    (∀ q ∈ p.packages, '.' ∉ q.path.toList) ∧ (mains p).length ≤ 1 ∧ (sites p).Nodup ∧
    t.nodes.map TaskNode.id =
      ["main", "cmd/app.main.spawn-8", "cmd/app.main.spawn-12", "pkg/pool.Start.spawn-8",
        "pkg/pool.Pool.Start.spawn-8", "pkg/pool.Pool.Start.spawn-30"] ∧
    (t.nodes.map TaskNode.id).Nodup ∧
    ∀ e ∈ t.edges, NamesOne t e.target ∧ (e.source = mainId → NamesOne t mainId) := by
  intro p t
  have plain : ∀ q ∈ p.packages, '.' ∉ q.path.toList := by decide
  have one : (mains p).length ≤ 1 := by decide
  have lines : (sites p).Nodup := by decide
  obtain ⟨-, distinct, leads⟩ := task_ids_distinct p
  have nodup := (distinct plain).mpr ⟨one, lines⟩
  exact ⟨plain, one, lines, by decide, nodup, leads nodup⟩

/-- A function that starts two tasks in one line. -/
def sharedLine : Facts.Project :=
  { Facts.Project.empty with packages := [workers "app" "app" [starting "run" [7, 7]] []] }

/-- The two tasks have one id, so that each of the two edges leads to both. -/
theorem task_ids_repeated_sharedLine :
    let t := build sharedLine
    t.nodes.map TaskNode.id = ["app.run.spawn-7", "app.run.spawn-7"] ∧
    ¬ (t.nodes.map TaskNode.id).Nodup ∧
    t.edges.map SpawnEdge.target = ["app.run.spawn-7", "app.run.spawn-7"] ∧
    ¬ NamesOne t "app.run.spawn-7" := by
  intro t
  refine ⟨by decide, by decide, by decide, ?_⟩
  unfold NamesOne
  decide

end ArchAtlas.SpawnTopology
