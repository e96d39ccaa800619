import ArchAtlas.Proofs.Codec.Record
import ArchAtlas.Proofs.Facts.Locator

namespace ArchAtlas.Facts

/-- The fields of a package, in the order in which they stand where they are not named. -/
def packageKeys : List String :=
  ["id", "name", "fullName", "sourceFiles", "imports", "structs", "interfaces", "functions"]

def plainFields : Fields Json (String × String × String × List String × Unit) :=
  .cons (.defaulted "id" .text "") <|
    .cons (.required "name" .text) <|
    .cons (.defaulted "fullName" .text "") <|
    .cons (.defaulted "sourceFiles" Codec.text.list []) .nil

/-- The field of a package that holds the collection, its items read by `codec`. -/
def Collection.field {α : Type} (c : Collection) (codec : Codec Json α) : Field Json (List α) :=
  .defaulted c.key codec.list []

/-- The fields of a package, the items of its collections read by `codecs`. -/
def packageFields {Item : Collection → Type} (codecs : (c : Collection) → Codec Json (Item c)) :
    Fields Json (String × String × String × List String × List (Item .imports) ×
      List (Item .structs) × List (Item .interfaces) × List (Item .functions) × Unit) :=
  .cons (.defaulted "id" .text "") <|
    .cons (.required "name" .text) <|
    .cons (.defaulted "fullName" .text "") <|
    .cons (.defaulted "sourceFiles" Codec.text.list []) <|
    .cons (Collection.imports.field (codecs .imports)) <|
    .cons (Collection.structs.field (codecs .structs)) <|
    .cons (Collection.interfaces.field (codecs .interfaces)) <|
    .cons (Collection.functions.field (codecs .functions)) .nil

theorem Collection.field_reads_iff {α : Type} (c : Collection) (codec : Codec Json α)
    (cell : Option Json) (as : List α) :
    (c.field codec).Reads cell as ↔
      cell = none ∧ as = [] ∨
      ∃ items, cell = some (.arr items) ∧ codec.decodeItems items = .ok as := by
  cases cell with
  | none => simp [field, Field.defaulted, Field.Reads, eq_comm]
  | some v => simp [field, Field.defaulted, Field.Reads, Json.list_decode_eq_ok_iff]

theorem decodeItems_anything (items : List Json) : anything.decodeItems items = .ok items := by
  induction items with
  | nil => rfl
  | cons item items ih =>
    have kept : anything.decode item = .ok item := rfl
    simp only [Codec.decodeItems, kept, ih]

theorem packageFields_reads_iff {Item : Collection → Type}
    (codecs : (c : Collection) → Codec Json (Item c)) (members : List (String × Json))
    (id name fullName : String) (sourceFiles : List String)
    (items : (c : Collection) → List (Item c)) :
    (packageFields codecs).Reads members (id, name, fullName, sourceFiles, items .imports,
        items .structs, items .interfaces, items .functions, ()) ↔
      plainFields.Reads members (id, name, fullName, sourceFiles, ()) ∧
        ∀ c : Collection, (c.field (codecs c)).Reads (members.lookup c.key) (items c) := by
  rw [Collection.forall_iff]
  constructor
  · rintro ⟨i, n, f, s, imports, structs, interfaces, functions, -⟩
    exact ⟨⟨i, n, f, s, trivial⟩, imports, structs, interfaces, functions⟩
  · rintro ⟨⟨i, n, f, s, -⟩, imports, structs, interfaces, functions⟩
    exact ⟨i, n, f, s, imports, structs, interfaces, functions, trivial⟩

/-- A package is read with its collections unread just if its form fits, its plain fields are read and
its collections are lists. -/
theorem Shell.decode_eq_ok_iff (v : Json) (shell : Shell) :
    Shell.codec.decode v = .ok shell ↔
      ∃ shape, v.shape? = some shape ∧ shape.Fits packageKeys ∧
        plainFields.Reads (shape.members packageKeys)
          (shell.id, shell.name, shell.fullName, shell.sourceFiles, ()) ∧
        ∀ c : Collection,
          (c.field anything).Reads ((shape.members packageKeys).lookup c.key) (c.unread shell) := by
  unfold Shell.codec
  rw [Codec.record_decode_eq_ok_iff _ _ _ _ (by decide) (fun _ => rfl) (fun _ => rfl)]
  refine exists_congr fun shape => ?_
  rw [Json.fields_eq_ok_iff]
  exact and_congr_right' (and_congr_right'
    (packageFields_reads_iff (fun _ => anything) _ _ _ _ _ fun c => c.unread shell))

/-- A package is read whole just if each item of its collections is read too. -/
theorem Package.decode_eq_ok_iff (v : Json) (package : Package) :
    (Package.codec Json).decode v = .ok package ↔
      ∃ shape, v.shape? = some shape ∧ shape.Fits packageKeys ∧
        plainFields.Reads (shape.members packageKeys)
          (package.id, package.name, package.fullName, package.sourceFiles, ()) ∧
        ∀ c : Collection,
          (c.field c.codec).Reads ((shape.members packageKeys).lookup c.key) (c.read package) := by
  unfold Package.codec
  rw [Codec.record_decode_eq_ok_iff _ _ _ _ (by decide) (fun _ => rfl) (fun _ => rfl)]
  refine exists_congr fun shape => ?_
  rw [Json.fields_eq_ok_iff]
  exact and_congr_right' (and_congr_right'
    (packageFields_reads_iff Collection.codec _ _ _ _ _ fun c => c.read package))

/-- A package that is read whole is read with its collections unread, and so is each item of them. -/
theorem Package.shell_of_decode {v : Json} {package : Package}
    (read : (Package.codec Json).decode v = .ok package) :
    ∃ shell, Shell.codec.decode v = .ok shell ∧
      ∀ c : Collection, ∀ w ∈ c.unread shell, ∃ a, c.codec.decode w = .ok a := by
  obtain ⟨shape, form, fits, plain, lists⟩ := (Package.decode_eq_ok_iff v package).mp read
  have unread : ∀ c : Collection, ∃ items,
      (c.field anything).Reads ((shape.members packageKeys).lookup c.key) items ∧
        ∀ w ∈ items, ∃ a, c.codec.decode w = .ok a := by
    intro c
    rcases (c.field_reads_iff _ _ _).mp (lists c) with ⟨missing, -⟩ | ⟨items, there, all⟩
    · exact ⟨[], (c.field_reads_iff _ _ _).mpr (.inl ⟨missing, rfl⟩), by simp⟩
    · refine ⟨items, ?_, fun w mem => c.codec.decodes_of_mem all mem⟩
      exact (c.field_reads_iff _ _ _).mpr (.inr ⟨items, there, decodeItems_anything items⟩)
  choose items reads each using unread
  refine ⟨⟨package.id, package.name, package.fullName, package.sourceFiles, items .imports,
    items .structs, items .interfaces, items .functions⟩, ?_, ?_⟩
  · refine (Shell.decode_eq_ok_iff _ _).mpr ⟨shape, form, fits, plain, fun c => ?_⟩
    cases c <;> exact reads _
  · intro c w mem
    cases c <;> exact each _ w mem

/-- The members of a project apart from its packages. -/
def others (members : List (String × Json)) : List (String × Json) :=
  members.filter fun m => m.1 ≠ "packages"

def headerFields : Fields Json (Language × String × String × List Requirement × Unit) :=
  .cons (.defaulted "language" (Language.codec Json) .go) <|
    .cons (.defaulted "moduleName" .text "") <|
    .cons (.defaulted "moduleRoot" .text "") <|
    .cons (.defaulted "requires" (Requirement.codec Json).list []) .nil

def packagesField : Field Json (List Package) :=
  .defaulted "packages" (Package.codec Json).list []

theorem packagesField_reads_none (packages : List Package) :
    packagesField.Reads none packages ↔ packages = [] := by
  simp [packagesField, Field.defaulted, Field.Reads, eq_comm]

theorem Project.decode_obj_eq_ok_iff (members : List (String × Json)) (project : Project) :
    (Project.codec Json).decode (.obj members) = .ok project ↔
      ((∀ key ∈ headerFields.keys, occurrences key members ≤ 1) ∧
        headerFields.Reads members
          (project.language, project.moduleName, project.moduleRoot, project.requires, ())) ∧
      occurrences "packages" members ≤ 1 ∧
        packagesField.Reads (members.lookup "packages") project.packages := by
  unfold Project.codec
  rw [Codec.record_decode_eq_ok_iff _ _ _ _ (by decide) (fun _ => rfl) (fun _ => rfl)]
  have keys {P : String → Prop} : (∀ key ∈ headerFields.keys ++ ["packages"], P key) ↔
      (∀ key ∈ headerFields.keys, P key) ∧ P "packages" := by
    rw [List.forall_mem_append, List.forall_mem_singleton]
  constructor
  · rintro ⟨shape, form, fits, l, n, r, q, packages, -⟩
    obtain rfl := Except.ok.inj form
    obtain ⟨once, oncePackages⟩ := keys.mp fits
    exact ⟨⟨once, l, n, r, q, trivial⟩, oncePackages, packages⟩
  · rintro ⟨⟨once, l, n, r, q, -⟩, oncePackages, packages⟩
    exact ⟨.named members, rfl, keys.mpr ⟨once, oncePackages⟩, l, n, r, q, packages, trivial⟩

theorem others_header (members : List (String × Json)) {key : String}
    (known : key ∈ headerFields.keys) :
    occurrences key (others members) = occurrences key members ∧
      (others members).lookup key = members.lookup key := by
  have apart : ∀ key ∈ headerFields.keys, decide (key ≠ "packages") = true := by decide
  constructor
  · exact (occurrences_filter (fun k => k ≠ "packages") key members).trans
      (if_pos (apart key known))
  · exact (lookup_filter (fun k => k ≠ "packages") key members).trans (if_pos (apart key known))

theorem others_packages (members : List (String × Json)) :
    occurrences "packages" (others members) = 0 ∧ (others members).lookup "packages" = none :=
  ⟨occurrences_filter (fun k => k ≠ "packages") "packages" members,
    lookup_filter (fun k => k ≠ "packages") "packages" members⟩

/-- A project is read just if the rest of it is read apart from its packages, and they are read too. -/
theorem Project.decode_split (members : List (String × Json)) (project : Project) :
    (Project.codec Json).decode (.obj members) = .ok project ↔
      (Project.codec Json).decode (.obj (others members)) = .ok { project with packages := [] } ∧
      occurrences "packages" members ≤ 1 ∧
        packagesField.Reads (members.lookup "packages") project.packages := by
  -- The header fields find the same among the other members, the packages nothing.
  obtain ⟨absent, unfound⟩ := others_packages members
  have once : (∀ key ∈ headerFields.keys, occurrences key (others members) ≤ 1) ↔
      ∀ key ∈ headerFields.keys, occurrences key members ≤ 1 :=
    forall₂_congr fun key known => by rw [(others_header members known).1]
  have reads := fun r => headerFields.reads_congr r
    fun key known => (others_header members known).2
  simp only [decode_obj_eq_ok_iff, once, reads, absent, unfound, packagesField_reads_none,
    Nat.zero_le, and_true]

/-- What is read apart from the packages has none. -/
theorem Project.packages_of_decode_others {members : List (String × Json)} {project : Project}
    (read : (Project.codec Json).decode (.obj (others members)) = .ok project) :
    project.packages = [] := by
  have packages := ((decode_obj_eq_ok_iff _ _).mp read).2.2
  rwa [(others_packages members).2, packagesField_reads_none] at packages

end ArchAtlas.Facts
