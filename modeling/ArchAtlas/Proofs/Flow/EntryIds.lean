import ArchAtlas.Flow.Build
import ArchAtlas.Proofs.Distinct
import ArchAtlas.Proofs.Text.Joined
import Mathlib.Data.List.Nodup

/-!
The ids of entry points. An entry point has a bare id, made of where it was found; a bare id that
occurs again is numbered. A numbered id can be the bare id of another entry point, and then two entry
points share it.

* `occurrences` lists the bare ids with their numbers, `ids_numberIds` ties them to the ids;
* `numberedId_cases`: which bare ids and numbers make the same id;
* `numberIds_nodup_iff`: ids are distinct exactly when no number makes a bare id;
* `mem_bareIds`: the bare ids of a project, by what they are made of.
-/

namespace ArchAtlas.Flow

/-! ## Numbering -/

/-- The id of the `n`-th entry point that has a bare id. -/
def numberedId (bare : String) (n : Nat) : String :=
  if n = 1 then bare else bare ++ "-" ++ toString n

/-- The bare ids with the numbers of their occurrences, where `seen` have occurred before. -/
def occurrences (seen : List String) : List String → List (String × Nat)
  | [] => []
  | bare :: rest => (bare, seen.count bare + 1) :: occurrences (bare :: seen) rest

theorem ids_numberIds (seen : List String) (entries : List EntryPoint) :
    (numberIds seen entries).map EntryPoint.id =
      (occurrences seen (entries.map EntryPoint.id)).map fun o => numberedId o.1 o.2 := by
  induction entries generalizing seen with
  | nil => rfl
  | cons e rest ih =>
    simp only [numberIds, occurrences, List.map_cons, ih, numberedId, Nat.add_eq_right]

theorem mem_occurrences {seen bares : List String} {bare : String} {n : Nat} :
    (bare, n) ∈ occurrences seen bares ↔
      seen.count bare < n ∧ n ≤ seen.count bare + bares.count bare := by
  induction bares generalizing seen with
  | nil =>
    simp only [occurrences, List.not_mem_nil, List.count_nil, false_iff]
    omega
  | cons first rest ih =>
    simp only [occurrences, List.mem_cons, Prod.mk.injEq, ih]
    by_cases same : bare = first
    · subst same
      simp only [List.count_cons_self, true_and]
      omega
    · simp only [same, List.count_cons_of_ne (Ne.symm same), false_and, false_or]

theorem occurrences_nodup (seen bares : List String) : (occurrences seen bares).Nodup := by
  induction bares generalizing seen with
  | nil => exact List.nodup_nil
  | cons first rest ih =>
    refine List.nodup_cons.mpr ⟨?_, ih (first :: seen)⟩
    intro later
    have above := (mem_occurrences.mp later).1
    rw [List.count_cons_self] at above
    omega

@[simp]
theorem numberedId_one (bare : String) : numberedId bare 1 = bare := if_pos rfl

theorem numberedId_of_two_le {bare : String} {n : Nat} (two : 2 ≤ n) :
    numberedId bare n = bare ++ "-" ++ toString n := if_neg (by omega)

/-- Two occurrences with one id are the same, or one is the first with a bare id that the number of the
other makes. -/
theorem numberedId_cases {b c : String} {m n : Nat} (hm : 0 < m) (hn : 0 < n)
    (same : numberedId b m = numberedId c n) :
    (b = c ∧ m = n) ∨ (2 ≤ n ∧ b = c ++ "-" ++ toString n) ∨
      (2 ≤ m ∧ c = b ++ "-" ++ toString m) := by
  rcases Nat.eq_or_lt_of_le hm with rfl | more <;> rcases Nat.eq_or_lt_of_le hn with rfl | more'
  · exact Or.inl ⟨by simpa using same, rfl⟩
  · rw [numberedId_one, numberedId_of_two_le more'] at same
    exact Or.inr (Or.inl ⟨more', same⟩)
  · rw [numberedId_one, numberedId_of_two_le more] at same
    exact Or.inr (Or.inr ⟨more, same.symm⟩)
  · -- The number of an occurrence stands behind the last hyphen of its id.
    have plain (k : Nat) : '-' ∉ (toString k).toList := Text.not_mem_toString (by decide) k
    rw [numberedId_of_two_le more, numberedId_of_two_le more'] at same
    obtain ⟨bares, numbers⟩ := Text.hyphen_inj (plain m) (plain n) same
    exact Or.inl ⟨bares, Text.toString_injective numbers⟩

/-- Ids are distinct exactly when no number of a repeated bare id makes another bare id. -/
theorem numberIds_nodup_iff (entries : List EntryPoint) :
    ((numberIds [] entries).map EntryPoint.id).Nodup ↔
      ∀ bare n, 2 ≤ n → n ≤ (entries.map EntryPoint.id).count bare →
        bare ++ "-" ++ toString n ∉ entries.map EntryPoint.id := by
  generalize bares : entries.map EntryPoint.id = ids
  have occurs (b : String) (n : Nat) : (b, n) ∈ occurrences [] ids ↔ 0 < n ∧ n ≤ ids.count b := by
    rw [mem_occurrences, List.count_nil, Nat.zero_add]
  rw [ids_numberIds, bares, List.nodup_map_iff_inj_on (occurrences_nodup _ _)]
  constructor
  · intro inj bare n two many mem
    have first : (bare ++ "-" ++ toString n, 1) ∈ occurrences [] ids :=
      (occurs _ 1).mpr ⟨Nat.one_pos, List.count_pos_iff.mpr mem⟩
    have later : (bare, n) ∈ occurrences [] ids := (occurs _ n).mpr ⟨by omega, many⟩
    have same : numberedId (bare ++ "-" ++ toString n) 1 = numberedId bare n := by
      rw [numberedId_one, numberedId_of_two_le two]
    have number : 1 = n := congrArg Prod.snd (inj _ first _ later same)
    omega
  · rintro clear ⟨b, m⟩ hb ⟨c, n⟩ hc same
    obtain ⟨hm, many⟩ := (occurs b m).mp hb
    obtain ⟨hn, many'⟩ := (occurs c n).mp hc
    have mem : b ∈ ids := List.count_pos_iff.mp (Nat.lt_of_lt_of_le hm many)
    have mem' : c ∈ ids := List.count_pos_iff.mp (Nat.lt_of_lt_of_le hn many')
    rcases numberedId_cases hm hn same with ⟨rfl, rfl⟩ | ⟨two, made⟩ | ⟨two, made⟩
    · rfl
    · exact absurd (made ▸ mem) (clear c n two many')
    · exact absurd (made ▸ mem') (clear b m two many)

/-! ## The bare ids of a project -/

/-- A body of the package has a call in the given line that registers an entry point. -/
def Registers (patterns : List ActiveRegistration) (p : Facts.Package) (line : Nat) : Prop :=
  ∃ b ∈ p.bodies, ∃ c ∈ b.2.2.calls,
    (∃ a ∈ patterns, a.registration.fits c = true) ∧ c.location.startLine.toNat = line

/-- The package is a program: it has a main function, and main functions count. -/
def IsProgram (withMain : Bool) (p : Facts.Package) : Prop :=
  withMain = true ∧ p.name = "main" ∧ ∃ f ∈ p.functions, f.name = "main"

/-- The ids that the entry points of a project would have alone. -/
def bareIds (detected : Frameworks) (custom : List Config.Framework)
    (manual : List Config.ManualEntry) (p : Facts.Project) : List String :=
  (p.packages.flatMap (ofPackage (active detected custom) (detected.contains "main")) ++
    manual.map ofManual).map EntryPoint.id

theorem ofMain_id (pkg : Facts.Package) (f : Facts.FuncDecl) :
    (ofMain pkg f).id = "entry-" ++ pkg.fullName ++ "-" ++ "main" := by
  simp [ofMain, String.append_assoc]

theorem mem_filterMap_ofCall? {patterns : List ActiveRegistration} {pkg : Facts.Package}
    {calls : List Facts.Call} {x : String} :
    x ∈ (calls.filterMap (ofCall? patterns pkg)).map EntryPoint.id ↔
      ∃ c ∈ calls, (∃ a ∈ patterns, a.registration.fits c = true) ∧
        x = "entry-" ++ pkg.fullName ++ "-" ++ toString c.location.startLine.toNat := by
  simp only [List.mem_map, List.mem_filterMap, ofCall?, Option.map_eq_some_iff]
  constructor
  · rintro ⟨_, ⟨c, mem, a, found, rfl⟩, rfl⟩
    have fits := List.find?_some found
    exact ⟨c, mem, ⟨a, List.mem_of_find?_eq_some found, fits⟩, rfl⟩
  · rintro ⟨c, mem, ⟨a, ha, fits⟩, rfl⟩
    obtain ⟨a', found⟩ := Option.isSome_iff_exists.mp
      ((List.find?_isSome (p := fun a : ActiveRegistration => a.registration.fits c)).mpr
        ⟨a, ha, fits⟩)
    exact ⟨_, ⟨c, mem, a', found, rfl⟩, rfl⟩

theorem mem_ids_ofPackage {patterns : List ActiveRegistration} {withMain : Bool}
    {pkg : Facts.Package} {x : String} :
    x ∈ (ofPackage patterns withMain pkg).map EntryPoint.id ↔
      (∃ line, Registers patterns pkg line ∧
        x = "entry-" ++ pkg.fullName ++ "-" ++ toString line) ∨
      (IsProgram withMain pkg ∧ x = "entry-" ++ pkg.fullName ++ "-" ++ "main") := by
  rw [ofPackage, List.map_append, List.mem_append]
  apply or_congr
  · simp only [List.map_flatMap, List.mem_flatMap, mem_filterMap_ofCall?, Registers]
    constructor
    · rintro ⟨b, hb, c, hc, fits, rfl⟩
      exact ⟨_, ⟨b, hb, c, hc, fits, rfl⟩, rfl⟩
    · rintro ⟨_, ⟨b, hb, c, hc, fits, rfl⟩, rfl⟩
      exact ⟨b, hb, c, hc, fits, rfl⟩
  · simp only [IsProgram]
    cases withMain with
    | false => simp
    | true =>
      by_cases named : pkg.name = "main"
      · simp [named, ofMain_id, eq_comm]
      · simp [named]

section

variable {detected : Frameworks} {custom : List Config.Framework} {manual : List Config.ManualEntry}
variable {p : Facts.Project}

theorem mem_bareIds {x : String} :
    x ∈ bareIds detected custom manual p ↔
      (∃ pkg ∈ p.packages,
        (∃ line, Registers (active detected custom) pkg line ∧
          x = "entry-" ++ pkg.fullName ++ "-" ++ toString line) ∨
        (IsProgram (detected.contains "main") pkg ∧
          x = "entry-" ++ pkg.fullName ++ "-" ++ "main")) ∨
      ∃ m ∈ manual, x = "entry-" ++ "manual" ++ "-" ++ slug m.function := by
  rw [bareIds, List.map_append, List.mem_append]
  apply or_congr
  · simp only [List.map_flatMap, List.mem_flatMap, mem_ids_ofPackage]
  · simp only [List.map_map, List.mem_map, Function.comp_apply, ofManual, eq_comm]
    rfl

theorem hyphen_notMem_slug (s : String) : '-' ∉ (slug s).toList := by
  intro mem
  obtain ⟨c, -, same⟩ := List.mem_map.mp (by simpa [slug] using mem)
  split at same
  · rename_i alphanumeric
    rw [same] at alphanumeric
    exact absurd alphanumeric (by decide)
  · exact absurd same (by decide)

/-- A bare id has a hyphen behind the one that it starts with. -/
theorem hyphen_mem_of_bareId {s : String} (h : "entry-" ++ s ∈ bareIds detected custom manual p) :
    '-' ∈ s.toList := by
  have joined : ∃ u v, "entry-" ++ s = "entry-" ++ u ++ "-" ++ v := by
    rcases mem_bareIds.mp h with ⟨pkg, -, ⟨line, -, made⟩ | ⟨-, made⟩⟩ | ⟨m, -, made⟩
    · exact ⟨_, _, made⟩
    · exact ⟨_, _, made⟩
    · exact ⟨_, _, made⟩
  obtain ⟨u, v, made⟩ := joined
  have letters := congrArg String.toList made
  have rest : s.toList = u.toList ++ '-' :: v.toList := by simpa using letters
  simp [rest]

/-- A bare id that ends in a number is that of a call in the line of that number, unless it is one that
was declared by hand. -/
theorem numbered_mem_bareIds {bare : String} {n : Nat} :
    bare ++ "-" ++ toString n ∈ bareIds detected custom manual p →
      (∃ pkg ∈ p.packages, Registers (active detected custom) pkg n ∧
        bare = "entry-" ++ pkg.fullName) ∨ bare = "entry-" ++ "manual" := by
  have plain (k : Nat) : '-' ∉ (toString k).toList := Text.not_mem_toString (by decide) k
  intro mem
  rcases mem_bareIds.mp mem with ⟨pkg, hp, ⟨line, registers, made⟩ | ⟨-, made⟩⟩ | ⟨m, -, made⟩
  · obtain ⟨rfl, numbers⟩ := Text.hyphen_inj (plain n) (plain line) made
    obtain rfl := Text.toString_injective numbers
    exact Or.inl ⟨pkg, hp, registers, rfl⟩
  · obtain ⟨-, number⟩ := Text.hyphen_inj (plain n) (by decide) made
    have letter : 'm' ∈ (toString n).toList := by rw [number]; decide
    exact absurd letter (Text.not_mem_toString (by decide) n)
  · exact Or.inr (Text.hyphen_inj (plain n) (hyphen_notMem_slug _) made).1

/-- Only a call can have a bare id that a number makes, and the number is its line. -/
theorem entryPoints_nodup_iff :
    ((entryPoints detected custom manual p).map EntryPoint.id).Nodup ↔
      ∀ pkg ∈ p.packages, ∀ line, Registers (active detected custom) pkg line → 2 ≤ line →
        (bareIds detected custom manual p).count ("entry-" ++ pkg.fullName) < line := by
  rw [entryPoints, numberIds_nodup_iff]
  change (∀ bare n, 2 ≤ n → n ≤ (bareIds detected custom manual p).count bare →
    bare ++ "-" ++ toString n ∉ bareIds detected custom manual p) ↔ _
  constructor
  · intro clear pkg hp line registers two
    by_contra many
    apply clear ("entry-" ++ pkg.fullName) line two (by omega)
    exact mem_bareIds.mpr (Or.inl ⟨pkg, hp, Or.inl ⟨line, registers, rfl⟩⟩)
  · intro few bare n two many mem
    have occurs : bare ∈ bareIds detected custom manual p := List.count_pos_iff.mp (by omega)
    rcases numbered_mem_bareIds mem with ⟨pkg, hp, registers, rfl⟩ | rfl
    · have := few pkg hp n registers two
      omega
    · exact absurd (hyphen_mem_of_bareId occurs) (by decide)

/-- Without a hyphen in the full name of a package nothing has the bare id that it makes. -/
theorem entryPoints_nodup_of_plain (plain : ∀ pkg ∈ p.packages, '-' ∉ pkg.fullName.toList) :
    ((entryPoints detected custom manual p).map EntryPoint.id).Nodup := by
  rw [entryPoints_nodup_iff]
  intro pkg hp line _ two
  have none : (bareIds detected custom manual p).count ("entry-" ++ pkg.fullName) = 0 :=
    List.count_eq_zero.mpr fun mem => plain pkg hp (hyphen_mem_of_bareId mem)
  omega

end

/-! ## The chain of an entry point -/

variable {ρ : Type} [Regex ρ]

/-- Where ids are distinct, the chain that is found for an id is that of the entry point. -/
theorem chainFor?_of_nodup {b : Builder ρ} {p : Facts.Project} {detected : Frameworks}
    (nodup : ((entryPoints detected b.config.customFrameworks b.config.entryPoints p).map
      EntryPoint.id).Nodup) {e : EntryPoint} (mem : e ∈ (b.build p detected).entryPoints) :
    (b.build p detected).chainFor? e.id =
      some (chain b.filter b.config.callEdgeConfidence (BodyIndex.build p) e) := by
  have kept : ((b.build p detected).entryPoints.map EntryPoint.id).Nodup :=
    nodup.sublist (List.filter_sublist.map EntryPoint.id)
  have found := find?_of_nodup kept mem
  unfold FlowGraph.chainFor?
  change ((b.build p detected).entryPoints.map _).find? _ = _
  rw [List.find?_map]
  exact congrArg (Option.map _) found

/-- The ids of entry points are distinct exactly when no package registers an entry point in a line `n`,
from the second on, while `n` entry points or more have the bare id that `entry-` makes with the full
name of that package. So they are distinct where no package has a hyphen in its full name; and where
they are, each id leads to the chain of its own entry point. -/
theorem entryPoint_ids_distinct (b : Builder ρ) (p : Facts.Project) (detected : Frameworks) :
    let ids := (entryPoints detected b.config.customFrameworks b.config.entryPoints p).map
      EntryPoint.id
    (ids.Nodup ↔ ∀ pkg ∈ p.packages, ∀ line,
      Registers (active detected b.config.customFrameworks) pkg line → 2 ≤ line →
        (bareIds detected b.config.customFrameworks b.config.entryPoints p).count
          ("entry-" ++ pkg.fullName) < line) ∧
    ((∀ pkg ∈ p.packages, '-' ∉ pkg.fullName.toList) → ids.Nodup) ∧
    (ids.Nodup → ∀ e ∈ (b.build p detected).entryPoints, (b.build p detected).chainFor? e.id =
      some (chain b.filter b.config.callEdgeConfidence (BodyIndex.build p) e)) :=
  ⟨entryPoints_nodup_iff, entryPoints_nodup_of_plain, fun nodup _ => chainFor?_of_nodup nodup⟩

/-- A package whose function registers the given handlers, each in its line, and whose handlers each call
a function named after them. -/
def routes (fullName : String) (handlers : List (String × UInt32)) : Facts.Package :=
  let span (line : UInt32) : Span := ⟨"r.go", line, line⟩
  let call (name : String) (args : List String) (line : UInt32) : Facts.Call :=
    ⟨name, none, none, args, span line⟩
  let function (name : String) (calls : List Facts.Call) : Facts.FuncDecl :=
    ⟨name, none, [], [], true, span 1, some ⟨calls, [], []⟩⟩
  { id := fullName, name := "r", fullName, sourceFiles := [], imports := [], structs := []
    interfaces := []
    functions :=
      function "register" (handlers.map fun (h, line) => call "HandleFunc" ["/", h] line) ::
        handlers.map fun (h, _) => function h [call (h ++ "Callee") [] 9] }

def plainBuilder : Builder Pattern := ⟨{ Config.Flow.default with noise := .disabled }, ⟨.disabled, []⟩⟩

theorem entryPoint_ids_distinct_sameLine :
    let p := { Facts.Project.empty with packages := [routes "a" [("x", 7), ("y", 7)]] }
    let g := plainBuilder.build p ⟨["net/http"]⟩
    (∀ pkg ∈ p.packages, '-' ∉ pkg.fullName.toList) ∧
    g.entryPoints.map EntryPoint.id = ["entry-a-7", "entry-a-7-2"] ∧
    ((entryPoints ⟨["net/http"]⟩ [] [] p).map EntryPoint.id).Nodup ∧
    ∀ e ∈ g.entryPoints, g.chainFor? e.id =
      some (chain plainBuilder.filter Confidence.directCall (BodyIndex.build p) e) := by
  intro p g
  have plain : ∀ pkg ∈ p.packages, '-' ∉ pkg.fullName.toList := by decide
  obtain ⟨-, distinct, leads⟩ := entryPoint_ids_distinct plainBuilder p ⟨["net/http"]⟩
  exact ⟨plain, by decide, distinct plain, leads (distinct plain)⟩

/-- Two registrations in one line of a package, and one in line 2 of a package named after that line. -/
def sharedLine : Facts.Project :=
  { Facts.Project.empty with
    packages := [routes "a" [("x", 7), ("y", 7)], routes "a-7" [("z", 2)]] }

/-- The second entry point is numbered to the bare id of the third, whose own chain is never found. -/
theorem entryPoint_ids_repeated_sharedLine :
    let g := plainBuilder.build sharedLine ⟨["net/http"]⟩
    g.entryPoints.map EntryPoint.id = ["entry-a-7", "entry-a-7-2", "entry-a-7-2"] ∧
    ¬ ((entryPoints ⟨["net/http"]⟩ [] [] sharedLine).map EntryPoint.id).Nodup ∧
    ∃ e ∈ g.entryPoints, g.chainFor? e.id ≠
      some (chain plainBuilder.filter Confidence.directCall (BodyIndex.build sharedLine) e) := by
  intro g
  let third : EntryPoint :=
    ⟨"entry-a-7-2", "http-handler", "http", none, "net/http", "/", "z", [], some "a-7", ⟨"r.go", 2⟩⟩
  refine ⟨by decide, by decide, third, by decide, fun same => ?_⟩
  -- Confidences are no part of the difference: the two chains lead to different callees.
  have callees := congrArg (Option.map fun c => c.calls.map CallEdge.target) same
  revert callees
  decide

end ArchAtlas.Flow
