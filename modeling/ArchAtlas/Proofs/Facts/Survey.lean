import ArchAtlas.Proofs.Facts.Pruning

/-!
To leave records out of a survey is to delete them from the value. Main statement: every object is
surveyed, and what the survey gives is what is read strictly of the object without the records that the
survey names. A survey names a record just if it does not fit, so it names none where the object is read
strictly as it stands.

* `mem_paths_surveyOf`: the records that a survey leaves out;
* `decodeItems_pruneItems`, `decode_prunePackage`, `decodeItems_prunePackages`, `decode_pruneMembers`:
  items, a package, the packages and a project without the records that do not fit;
* `not_misfit_of_decode`: all records fit where the whole is read.
-/

namespace ArchAtlas.Facts

/-- A record that does not fit, in a project with the given members. A package is judged with its
collections unread, and an item where its package is read so. -/
def Misfit (members : List (String × Json)) : Locator → Prop
  | .packages => ∃ v, members.lookup "packages" = some v ∧ ∀ items, v ≠ .arr items
  | .header => (Project.codec Json).Refuses (.obj (others members))
  | .package index =>
    ∃ v, (packageItems members).1[index]? = some v ∧ Shell.codec.Refuses v
  | .item index c place =>
    ∃ v shell w, (packageItems members).1[index]? = some v ∧ Shell.codec.decode v = .ok shell ∧
      (c.unread shell)[place]? = some w ∧ c.codec.Refuses w

/-- The survey names the record among those it leaves out. -/
def Survey.omits (s : Survey) (l : Locator) : Bool :=
  l.path ∈ s.skipped.map Skipped.path

/-- The survey of a project with the given members. -/
def surveyOf (members : List (String × Json)) : Survey :=
  ⟨{ (surveyHeader members).1 with packages := (surveyPackages 0 (packageItems members).1).1 },
    (packageItems members).2 ++ (surveyHeader members).2 ++
      (surveyPackages 0 (packageItems members).1).2⟩

theorem survey_obj (members : List (String × Json)) :
    Project.survey (.obj members) = .ok (surveyOf members) :=
  rfl

theorem surveyHeader_of_ok {members : List (String × Json)} {project : Project}
    (read : (Project.codec Json).decode (.obj (others members)) = .ok project) :
    surveyHeader members = (project, []) := by
  unfold others at read
  simp only [surveyHeader, read]

theorem surveyHeader_of_error {members : List (String × Json)} {fault : Fault}
    (read : (Project.codec Json).decode (.obj (others members)) = .error fault) :
    surveyHeader members = (.empty, [⟨"project", fault.message⟩]) := by
  unfold others at read
  simp only [surveyHeader, read]

/-- There are no packages, or no list of them, or a list. -/
theorem packages_cases (members : List (String × Json)) :
    members.lookup "packages" = none ∧ (packageItems members).1 = [] ∨
      Misfit members .packages ∧ (packageItems members).1 = [] ∨
      members.lookup "packages" = some (.arr (packageItems members).1) := by
  simp only [packageItems, Misfit]
  cases members.lookup "packages" with
  | none => simp
  | some v => cases v <;> simp

/-! ## What is left out -/

def paths (skipped : List Skipped) : List String :=
  skipped.map Skipped.path

theorem mem_paths_append {path : String} {xs ys : List Skipped} :
    path ∈ paths (xs ++ ys) ↔ path ∈ paths xs ∨ path ∈ paths ys := by
  simp [paths]

theorem mem_paths_surveyItems {α : Type} {codec : Codec Json α} {collection path : String}
    {index : Nat} {items : List Json} :
    path ∈ paths (surveyItems codec collection index items).2 ↔
      ∃ p ∈ items.zipIdx index, codec.Refuses p.1 ∧ itemPath collection p.2 = path := by
  induction items generalizing index with
  | nil => simp [surveyItems, paths]
  | cons item items ih =>
    simp only [List.zipIdx_cons, List.mem_cons, or_and_right, exists_or, exists_eq_left, ← ih]
    cases read : codec.decode item with
    | error fault => simp [surveyItems, paths, Codec.Refuses, read, eq_comm]
    | ok a => simp [surveyItems, Codec.Refuses, read]

theorem mem_paths_shell_survey {shell : Shell} {package path : String} :
    path ∈ paths (shell.survey package).2 ↔
      ∃ c : Collection,
        path ∈ paths (surveyItems c.codec (c.path package) 0 (c.unread shell)).2 := by
  simp only [Collection.exists_iff, ← mem_paths_append, Collection.path, String.append_assoc,
    ← List.append_assoc]
  exact Iff.rfl

theorem mem_paths_surveyPackages {index : Nat} {items : List Json} {path : String} :
    path ∈ paths (surveyPackages index items).2 ↔
      ∃ p ∈ items.zipIdx index,
        Shell.codec.Refuses p.1 ∧ itemPath "packages" p.2 = path ∨
        ∃ shell, Shell.codec.decode p.1 = .ok shell ∧
          path ∈ paths (shell.survey (itemPath "packages" p.2)).2 := by
  induction items generalizing index with
  | nil => simp [surveyPackages, paths]
  | cons item items ih =>
    simp only [List.zipIdx_cons, List.mem_cons, or_and_right, exists_or, exists_eq_left, ← ih]
    cases read : Shell.codec.decode item with
    | error fault => simp [surveyPackages, paths, Codec.Refuses, read, eq_comm]
    | ok shell => simp [surveyPackages, mem_paths_append, Codec.Refuses, read]

theorem mem_paths_packageItems (members : List (String × Json)) (path : String) :
    path ∈ paths (packageItems members).2 ↔
      Misfit members .packages ∧ Locator.packages.path = path := by
  simp only [packageItems, Misfit, Locator.path]
  cases members.lookup "packages" with
  | none => simp [paths]
  | some v => cases v <;> simp [paths, eq_comm]

theorem mem_paths_surveyHeader (members : List (String × Json)) (path : String) :
    path ∈ paths (surveyHeader members).2 ↔
      Misfit members .header ∧ Locator.header.path = path := by
  cases read : (Project.codec Json).decode (.obj (others members)) with
  | error fault =>
    simp [surveyHeader_of_error read, Misfit, Codec.Refuses, read, Locator.path, paths, eq_comm]
  | ok project => simp [surveyHeader_of_ok read, Misfit, Codec.Refuses, read, paths]

/-- A survey leaves out just the records that do not fit. -/
theorem mem_paths_surveyOf (members : List (String × Json)) (path : String) :
    path ∈ paths (surveyOf members).skipped ↔
      ∃ l : Locator, Misfit members l ∧ l.path = path := by
  simp only [surveyOf, mem_paths_append, mem_paths_packageItems, mem_paths_surveyHeader,
    mem_paths_surveyPackages, mem_paths_shell_survey, mem_paths_surveyItems, Prod.exists,
    List.mk_mem_zipIdx_iff_getElem?]
  constructor
  · rintro ((found | found) | ⟨v, index, there, ⟨refused, same⟩ | ⟨shell, read, c, item⟩⟩)
    · exact ⟨_, found⟩
    · exact ⟨_, found⟩
    · exact ⟨.package index, ⟨v, there, refused⟩, same⟩
    · obtain ⟨w, place, inside, refused, same⟩ := item
      exact ⟨.item index c place, ⟨v, shell, w, there, read, inside, refused⟩, same⟩
  · rintro ⟨l, misfit, same⟩
    cases l with
    | packages => exact .inl (.inl ⟨misfit, same⟩)
    | header => exact .inl (.inr ⟨misfit, same⟩)
    | package index =>
      obtain ⟨v, there, refused⟩ := misfit
      exact .inr ⟨v, index, there, .inl ⟨refused, same⟩⟩
    | item index c place =>
      obtain ⟨v, shell, w, there, read, inside, refused⟩ := misfit
      exact .inr ⟨v, index, there, .inr ⟨shell, read, c, w, place, inside, refused, same⟩⟩

theorem surveyOf_omits_iff (members : List (String × Json)) (l : Locator) :
    (surveyOf members).omits l = true ↔ Misfit members l := by
  rw [Survey.omits, decide_eq_true_iff]
  refine (mem_paths_surveyOf members l.path).trans ⟨?_, fun misfit => ⟨l, misfit, rfl⟩⟩
  rintro ⟨m, misfit, same⟩
  rwa [← Locator.path_injective same]

/-! ## What is kept

A predicate `gone` that marks just the records that do not fit takes the place of the report here: of an
indexed list, it has to be right at the indices of its items. -/

/-- The items that fit are what is read of a list without the others. -/
theorem decodeItems_pruneItems {α : Type} {codec : Codec Json α} {collection : String}
    {gone : Nat → Bool} {index : Nat} {items : List Json}
    (just : ∀ p ∈ items.zipIdx index, gone p.2 = true ↔ codec.Refuses p.1) :
    codec.decodeItems (pruneItems gone index items) =
      .ok (surveyItems codec collection index items).1 := by
  induction items generalizing index with
  | nil => rfl
  | cons item items ih =>
    rw [List.zipIdx_cons, List.forall_mem_cons] at just
    obtain ⟨here, later⟩ := just
    have rest := ih later
    cases read : codec.decode item with
    | error fault =>
      have out : gone index = true := here.mpr ⟨fault, read⟩
      simpa [pruneItems, out, surveyItems, read] using rest
    | ok a =>
      have kept : gone index = false := by
        rw [← Bool.not_eq_true, here]
        simp [Codec.Refuses, read]
      simp [pruneItems, kept, surveyItems, read, Codec.decodeItems, rest]

theorem Collection.read_survey (c : Collection) (shell : Shell) (path : String) :
    c.read (shell.survey path).1 = (surveyItems c.codec (c.path path) 0 (c.unread shell)).1 := by
  cases c <;> rw [Collection.path, String.append_assoc] <;> rfl

/-- A package is surveyed as what is read of it without the items that do not fit. -/
theorem decode_prunePackage (gone : Collection → Nat → Bool) {v : Json} {shell : Shell}
    (path : String) (read : Shell.codec.decode v = .ok shell)
    (just : ∀ c : Collection, ∀ p ∈ (c.unread shell).zipIdx,
      gone c p.2 = true ↔ c.codec.Refuses p.1) :
    (Package.codec Json).decode (prunePackage gone v) = .ok (shell.survey path).1 := by
  obtain ⟨shape, form, fits, plain, lists⟩ := (Shell.decode_eq_ok_iff v shell).mp read
  obtain ⟨pruned, form', fits', members⟩ := prunePackage_shape gone form
  refine (Package.decode_eq_ok_iff _ _).mpr ⟨pruned, form', fits'.mpr fits, ?_, fun c => ?_⟩
  · refine (plainFields.reads_congr _ fun key known => ?_).mpr plain
    rw [members, lookup_map, pruneField_plain gone known, Option.map_id, id]
  · rw [members, lookup_map, c.read_survey, Collection.field_reads_iff]
    rcases (c.field_reads_iff _ _ _).mp (lists c) with ⟨missing, empty⟩ | ⟨items, there, all⟩
    · rw [missing, empty]
      exact .inl ⟨rfl, rfl⟩
    · rw [decodeItems_anything, Except.ok.injEq] at all
      subst all
      rw [there, Option.map_some, pruneField_arr]
      exact .inr ⟨_, rfl, decodeItems_pruneItems (just c)⟩

/-- The packages that are surveyed are what is read of a list without the records that do not fit. -/
theorem decodeItems_prunePackages {gone : Locator → Bool} {index : Nat} {items : List Json}
    (packages : ∀ p ∈ items.zipIdx index, gone (.package p.2) = true ↔ Shell.codec.Refuses p.1)
    (inside : ∀ p ∈ items.zipIdx index, ∀ shell, Shell.codec.decode p.1 = .ok shell →
      ∀ c : Collection, ∀ q ∈ (c.unread shell).zipIdx,
        gone (.item p.2 c q.2) = true ↔ c.codec.Refuses q.1) :
    (Package.codec Json).decodeItems (prunePackages gone index items) =
      .ok (surveyPackages index items).1 := by
  induction items generalizing index with
  | nil => rfl
  | cons item items ih =>
    rw [List.zipIdx_cons, List.forall_mem_cons] at packages inside
    obtain ⟨here, later⟩ := packages
    obtain ⟨insideHere, insideLater⟩ := inside
    have rest := ih later insideLater
    cases read : Shell.codec.decode item with
    | error fault =>
      have out : gone (.package index) = true := here.mpr ⟨fault, read⟩
      simpa [prunePackages, out, surveyPackages, read] using rest
    | ok shell =>
      have kept : gone (.package index) = false := by
        rw [← Bool.not_eq_true, here]
        simp [Codec.Refuses, read]
      have pruned := decode_prunePackage (fun c place => gone (.item index c place))
        (itemPath "packages" index) read (insideHere shell read)
      simp [prunePackages, kept, surveyPackages, read, Codec.decodeItems, pruned, rest]

section Project

variable {gone : Locator → Bool} {members : List (String × Json)}
  (just : ∀ l, gone l = true ↔ Misfit members l)

include just

theorem decode_others_pruneMembers :
    (Project.codec Json).decode (.obj (others (pruneMembers gone members))) =
      .ok { (surveyHeader members).1 with packages := [] } := by
  rw [others_pruneMembers]
  cases read : (Project.codec Json).decode (.obj (others members)) with
  | error fault =>
    rw [if_pos ((just .header).mpr ⟨fault, read⟩), surveyHeader_of_error read]
    rfl
  | ok project =>
    have kept : ¬ gone .header = true := by
      rw [just]
      simp [Misfit, Codec.Refuses, read]
    rw [if_neg kept, read, surveyHeader_of_ok read, ← Project.packages_of_decode_others read]

theorem reads_pruned_packages :
    packagesField.Reads ((pruneMembers gone members).lookup "packages")
      (surveyPackages 0 (packageItems members).1).1 := by
  rw [lookup_pruneMembers]
  rcases packages_cases members with ⟨missing, empty⟩ | ⟨misfit, empty⟩ | found
  · rw [missing, empty, Option.map_none, ite_self, packagesField_reads_none]
    rfl
  · rw [if_pos ((just .packages).mpr misfit), empty, packagesField_reads_none]
    rfl
  · have kept : ¬ gone .packages = true := by
      rw [just]
      simp [Misfit, found]
    rw [if_neg kept, found, Option.map_some]
    refine (Json.list_decode_eq_ok_iff _ _ _).mpr ⟨_, pruneMember_packages gone _,
      decodeItems_prunePackages ?_ ?_⟩
    · rintro ⟨v, index⟩ mem
      have there := List.mk_mem_zipIdx_iff_getElem?.mp mem
      simp [just, Misfit, there]
    · rintro ⟨v, index⟩ mem shell read c ⟨w, place⟩ inside
      have there := List.mk_mem_zipIdx_iff_getElem?.mp mem
      have within := List.mk_mem_zipIdx_iff_getElem?.mp inside
      simp [just, Misfit, there, read, within]

/-- What is surveyed is what is read of the project without the records that do not fit. -/
theorem decode_pruneMembers (distinct : (members.map Prod.fst).Nodup) :
    (Project.codec Json).decode (.obj (pruneMembers gone members)) =
      .ok (surveyOf members).project := by
  have once : occurrences "packages" (pruneMembers gone members) ≤ 1 := calc
    occurrences "packages" (pruneMembers gone members)
      ≤ occurrences "packages" members := occurrences_pruneMembers_le gone members "packages"
    _ ≤ 1 := List.nodup_iff_count_le_one.mp distinct "packages"
  exact (Project.decode_split _ _).mpr
    ⟨decode_others_pruneMembers just, once, reads_pruned_packages just⟩

end Project

/-! ## Surveys -/

/-- Where the whole project is read, every record fits. -/
theorem not_misfit_of_decode {members : List (String × Json)} {project : Project}
    (read : (Project.codec Json).decode (.obj members) = .ok project) (l : Locator) :
    ¬ Misfit members l := by
  obtain ⟨header, -, packages⟩ := (Project.decode_split members project).mp read
  have each : ∀ v ∈ (packageItems members).1,
      ∃ package, (Package.codec Json).decode v = .ok package := by
    rcases packages_cases members with ⟨-, empty⟩ | ⟨-, empty⟩ | found
    · simp [empty]
    · simp [empty]
    · rw [found] at packages
      obtain ⟨items, same, all⟩ := (Json.list_decode_eq_ok_iff _ _ _).mp packages
      obtain rfl := Json.arr.inj same
      exact fun v mem => (Package.codec Json).decodes_of_mem all mem
  -- Each kind of record that does not fit contradicts what has been read of it.
  cases l with
  | packages =>
    rintro ⟨v, found, other⟩
    rw [found] at packages
    obtain ⟨items, rfl, -⟩ := (Json.list_decode_eq_ok_iff _ _ _).mp packages
    exact other items rfl
  | header =>
    rintro ⟨fault, refused⟩
    rw [header] at refused
    cases refused
  | package index =>
    rintro ⟨v, there, fault, refused⟩
    obtain ⟨package, whole⟩ := each v (List.mem_of_getElem? there)
    obtain ⟨shell, opened, -⟩ := Package.shell_of_decode whole
    rw [opened] at refused
    cases refused
  | item index c place =>
    rintro ⟨v, shell, w, there, opened, inside, fault, refused⟩
    obtain ⟨package, whole⟩ := each v (List.mem_of_getElem? there)
    obtain ⟨shell', opened', items⟩ := Package.shell_of_decode whole
    obtain rfl : shell = shell' := Except.ok.inj (opened.symm.trans opened')
    obtain ⟨a, fits⟩ := items c w (List.mem_of_getElem? inside)
    rw [fits] at refused
    cases refused

/-- What a survey of a project has to do with reading it strictly. -/
structure Survey.Faithful (members : List (String × Json)) (s : Survey) : Prop where
  /-- The records left out are those that do not fit. -/
  reported : ∀ path, path ∈ s.skipped.map Skipped.path ↔
    ∃ l : Locator, Misfit members l ∧ l.path = path
  /-- Without them the project is read, and gives what was surveyed. -/
  pruned : (Project.codec Json).decode (prune s.omits (.obj members)) = .ok s.project
  /-- Nothing is left out just where the project is read as it stands. -/
  complete : s.skipped = [] ↔ ∃ project, (Project.codec Json).decode (.obj members) = .ok project
  /-- There both ways of reading give the same project. -/
  agrees : ∀ project, (Project.codec Json).decode (.obj members) = .ok project →
    s.project = project

/-- Every object, its keys being distinct, is surveyed; to leave records out of the survey is to delete
them from the object, and none are left out just if the object is read as it stands. -/
theorem survey_faithful (members : List (String × Json))
    (distinct : (members.map Prod.fst).Nodup) :
    ∃ s, Project.survey (.obj members) = .ok s ∧ s.Faithful members := by
  have pruned := decode_pruneMembers (surveyOf_omits_iff members) distinct
  have whole : (surveyOf members).skipped = [] →
      (Project.codec Json).decode (.obj members) = .ok (surveyOf members).project := by
    -- Where no record is named, the pruned object is the object.
    intro empty
    have kept : (surveyOf members).omits = fun _ => false := by
      funext l
      simp [Survey.omits, empty]
    rw [kept] at pruned
    rwa [← prune_none (.obj members)]
  have empty : ∀ project, (Project.codec Json).decode (.obj members) = .ok project →
      (surveyOf members).skipped = [] := by
    intro project read
    rw [← List.map_eq_nil_iff, List.eq_nil_iff_forall_not_mem]
    intro path mem
    obtain ⟨l, misfit, -⟩ := (mem_paths_surveyOf members path).mp mem
    exact not_misfit_of_decode read l misfit
  refine ⟨surveyOf members, survey_obj members, ?_⟩
  exact {
    reported := mem_paths_surveyOf members
    pruned := pruned
    complete := ⟨fun none => ⟨_, whole none⟩, fun ⟨project, read⟩ => empty project read⟩
    agrees := fun project read =>
      Except.ok.inj ((whole (empty project read)).symm.trans read) }

/-- A package without a name, one with a struct that has none, and one that is written as a sequence and
has an import without a path. -/
def patchwork : List (String × Json) :=
  [("moduleName", .str "shop"),
    ("packages", .arr [
      .obj [("fullName", .str "pkg/nameless")],
      .obj [("name", .str "store"), ("structs", .arr [
        .obj [("name", .str "Repo"),
          ("location", .obj [("file", .str "repo.go"), ("startLine", .int 3)])],
        .obj [("location", .obj [("file", .str "bad.go"), ("startLine", .int 1)])]])],
      .arr [.str "api", .str "api", .str "pkg/api", .arr [], .arr [.obj [("alias", .str "x")]]]])]

theorem survey_faithful_patchwork :
    (patchwork.map Prod.fst).Nodup ∧ ∃ s, Project.survey (.obj patchwork) = .ok s ∧
      s.skipped.map Skipped.path =
        ["packages[0]", "packages[1].structs[1]", "packages[2].imports[0]"] ∧
      s.Faithful patchwork := by
  have distinct : (patchwork.map Prod.fst).Nodup := by decide
  obtain ⟨s, surveyed, faithful⟩ := survey_faithful patchwork distinct
  obtain rfl := Except.ok.inj ((survey_obj patchwork).symm.trans surveyed)
  exact ⟨distinct, _, surveyed, by decide, faithful⟩

end ArchAtlas.Facts
