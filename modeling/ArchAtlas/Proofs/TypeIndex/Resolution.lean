import ArchAtlas.Proofs.Text.Joined
import ArchAtlas.Proofs.TypeIndex
import Mathlib.Data.List.Find

/-!
What the text of a field's type is resolved to. A type is looked up in a scope: its qualifier, or else
the path of the package that uses it. One index serves short names and paths, so that a path in use can
also be the short name of another package.

* `typeKey_inj`: where names have no colon, a key is that of one scope and one name;
* `resolve?_eq_first`: the answer is the first declaration of the name that counts in the scope;
* `Strays`: a package is known under the path of another one, and declares the name before it does;
* `unqualified_resolution`: an unqualified type stays in its package exactly when none strays.
-/

namespace ArchAtlas

theorem typeKey_inj {scope scope' name name' : String} (plain : ':' ∉ name.toList)
    (plain' : ':' ∉ name'.toList) :
    typeKey scope name = typeKey scope' name' ↔ scope = scope' ∧ name = name' := by
  constructor
  · exact Text.joined_inj rfl plain plain'
  · rintro ⟨rfl, rfl⟩
    rfl

namespace Declaration

/-- The declaration is of the name, in a package that has the scope as its short name or its path. -/
def CountsIn (d : Declaration) (scope name : String) : Prop :=
  d.type.name = name ∧ (d.package.name = scope ∨ d.package.path = scope)

instance (d : Declaration) (scope name : String) : Decidable (d.CountsIn scope name) :=
  inferInstanceAs (Decidable (_ ∧ _))

def first? (p : Facts.Project) (scope name : String) : Option Declaration :=
  (ofProject p).find? fun d => d.CountsIn scope name

/-- A key is one of the two keys of the declarations that count. -/
theorem key_iff_countsIn {d : Declaration} {scope name : String} (plain : ':' ∉ name.toList)
    (plain' : ':' ∉ d.type.name.toList) :
    (typeKey scope name = typeKey d.package.name d.type.name ∨
      typeKey scope name = typeKey d.package.path d.type.name) ↔ d.CountsIn scope name := by
  rw [typeKey_inj plain plain', typeKey_inj plain plain', ← or_and_right]
  constructor
  · rintro ⟨within, named⟩
    exact ⟨named.symm, within.imp Eq.symm Eq.symm⟩
  · rintro ⟨named, within⟩
    exact ⟨within.imp Eq.symm Eq.symm, named.symm⟩

end Declaration

namespace TypeIndex

variable {p : Facts.Project} {path name type scope : String}

/-- Under a key stands the first declaration that has it as one of its two keys. -/
theorem lookup_keys (declared : List Declaration) (key : String) :
    (declared.flatMap fun d =>
      [(typeKey d.package.name d.type.name, d.id),
        (typeKey d.package.path d.type.name, d.id)]).lookup key =
      (declared.find? fun d => key = typeKey d.package.name d.type.name ∨
        key = typeKey d.package.path d.type.name).map Declaration.id := by
  induction declared with
  | nil => rfl
  | cons d rest ih =>
    simp only [List.flatMap_cons, List.cons_append, List.nil_append, List.lookup_cons,
      List.find?_cons]
    by_cases short : key = typeKey d.package.name d.type.name
    · simp [short]
    · by_cases full : key = typeKey d.package.path d.type.name
      · simp [beq_false_of_ne short, ← full]
      · simp [beq_false_of_ne short, beq_false_of_ne full, short, full, ih]

/-- A type is resolved to the first declaration of its bare name that counts in its scope. -/
theorem resolve?_eq_first (plain : ∀ d ∈ Declaration.ofProject p, ':' ∉ d.type.name.toList)
    (within : (TypeName.qualifier? type).getD path = scope) :
    (build p).resolve? path type =
      (Declaration.first? p scope (TypeName.bare type)).map Declaration.id := by
  have names : (build p).names = (Declaration.ofProject p).map fun d => d.type.name := rfl
  unfold resolve?
  dsimp only
  rw [within, names]
  split
  · rename_i known
    obtain ⟨known, mem, same⟩ := List.mem_map.mp known
    have bare : ':' ∉ (TypeName.bare type).toList := same ▸ plain known mem
    have sought : ((Declaration.ofProject p).find? fun d =>
        typeKey scope (TypeName.bare type) = typeKey d.package.name d.type.name ∨
          typeKey scope (TypeName.bare type) = typeKey d.package.path d.type.name) =
        Declaration.first? p scope (TypeName.bare type) :=
      List.find?_congr fun d mem =>
        decide_eq_decide.mpr (Declaration.key_iff_countsIn bare (plain d mem))
    rw [← sought]
    exact lookup_keys _ _
  · rename_i unknown
    have none : Declaration.first? p scope (TypeName.bare type) = none := by
      refine List.find?_eq_none.mpr fun d mem counts => unknown ?_
      exact List.mem_map.mpr ⟨d, mem, (of_decide_eq_true counts).1⟩
    rw [none]
    rfl

/-- Some package with the path declares a struct or an interface of the name. -/
def DeclaredAt (p : Facts.Project) (path name : String) : Prop :=
  ∃ q ∈ p.packages, q.path = path ∧ ∃ t ∈ q.structs ++ q.interfaces, t.name = name

instance (p : Facts.Project) (path name : String) : Decidable (DeclaredAt p path name) :=
  inferInstanceAs (Decidable (∃ q ∈ p.packages, _))

theorem declaredAt_iff : DeclaredAt p path name ↔
    ∃ d ∈ Declaration.ofProject p, d.package.path = path ∧ d.type.name = name := by
  constructor
  · rintro ⟨q, hq, rfl, t, ht, rfl⟩
    rcases List.mem_append.mp ht with ht | ht
    · exact ⟨⟨q, t, .struct⟩, Declaration.mem_ofProject.mpr ⟨hq, ht⟩, rfl, rfl⟩
    · exact ⟨⟨q, t, .interface⟩, Declaration.mem_ofProject.mpr ⟨hq, ht⟩, rfl, rfl⟩
  · rintro ⟨⟨q, t, kind⟩, mem, rfl, rfl⟩
    obtain ⟨hq, ht⟩ := Declaration.mem_ofProject.mp mem
    cases kind with
    | struct => exact ⟨q, hq, rfl, t, List.mem_append_left _ ht, rfl⟩
    | interface => exact ⟨q, hq, rfl, t, List.mem_append_right _ ht, rfl⟩

/-- A package elsewhere has the path as its short name and declares the name, and no package at the
path has declared it before. -/
def Strays (p : Facts.Project) (path name : String) : Prop :=
  ∃ before d after, Declaration.ofProject p = before ++ d :: after ∧ d.type.name = name ∧
    d.package.name = path ∧ d.package.path ≠ path ∧
    ∀ e ∈ before, e.type.name = name → e.package.path ≠ path

/-- Where none strays, the first declaration that counts is one at the path. -/
theorem path_of_first {d : Declaration} (home : ¬ Strays p path name)
    (found : Declaration.first? p path name = some d) :
    d.package.path = path ∧ d.type.name = name := by
  obtain ⟨counts, before, after, split, none⟩ := List.find?_eq_some_iff_append.mp found
  obtain ⟨named, scope⟩ := of_decide_eq_true counts
  refine ⟨?_, named⟩
  by_contra away
  have short : d.package.name = path := scope.resolve_right away
  refine home ⟨before, d, after, split, named, short, away, fun e mem same here => ?_⟩
  have skipped := none e mem
  simp [Declaration.CountsIn, same, here] at skipped

/-- Where one strays, the first declaration that counts is not at the path. -/
theorem first_of_strays (strays : Strays p path name) :
    ∃ d, Declaration.first? p path name = some d ∧ d.package.path ≠ path ∧ d.type.name = name := by
  obtain ⟨before, d, after, split, named, short, away, earlier⟩ := strays
  have counts : d.CountsIn path name := ⟨named, Or.inl short⟩
  simp only [Declaration.first?, split, List.find?_append, List.find?_cons, counts, decide_true]
  cases found : before.find? fun e => e.CountsIn path name with
  | none => exact ⟨d, rfl, away, named⟩
  | some e =>
    have counts : e.CountsIn path name := by simpa using List.find?_some found
    obtain ⟨same, -⟩ := counts
    exact ⟨e, rfl, earlier e (List.mem_of_find?_eq_some found) same, same⟩

/-- The answer for an unqualified type, if it stays in its package: the type of the bare name at the
path, where there is one. -/
def StaysAt (p : Facts.Project) (path type : String) : Prop :=
  ∀ id, (build p).resolve? path type = some id ↔
    DeclaredAt p path (TypeName.bare type) ∧ id = path ++ "." ++ TypeName.bare type

theorem staysAt_iff (plain : ∀ d ∈ Declaration.ofProject p, ':' ∉ d.type.name.toList)
    (unqualified : TypeName.qualifier? type = none) :
    StaysAt p path type ↔ ¬ Strays p path (TypeName.bare type) := by
  have answer : (build p).resolve? path type =
      (Declaration.first? p path (TypeName.bare type)).map Declaration.id :=
    resolve?_eq_first plain (by rw [unqualified, Option.getD_none])
  constructor
  · intro stays strays
    obtain ⟨d, found, away, named⟩ := first_of_strays strays
    rw [found] at answer
    obtain ⟨-, same⟩ := (stays d.id).mp answer
    rw [← named] at same
    exact away (String.append_left_inj _ |>.mp (String.append_left_inj _ |>.mp same))
  · intro home id
    rw [answer, Option.map_eq_some_iff]
    constructor
    · rintro ⟨d, found, rfl⟩
      obtain ⟨here, named⟩ := path_of_first home found
      refine ⟨declaredAt_iff.mpr ⟨d, List.mem_of_find?_eq_some found, here, named⟩, ?_⟩
      rw [← here, ← named]
      rfl
    · rintro ⟨declared, rfl⟩
      obtain ⟨d, mem, here, named⟩ := declaredAt_iff.mp declared
      have counts : d.CountsIn path (TypeName.bare type) := ⟨named, Or.inr here⟩
      have some : (Declaration.first? p path (TypeName.bare type)).isSome :=
        List.find?_isSome.mpr ⟨d, mem, decide_eq_true counts⟩
      obtain ⟨e, found⟩ := Option.isSome_iff_exists.mp some
      obtain ⟨there, same⟩ := path_of_first home found
      refine ⟨e, found, ?_⟩
      rw [← there, ← same]
      rfl

/-- Where names have no colon, an unqualified type is resolved to the first declaration of its name in a
package that has the path as its path or as its short name. So it is resolved to the type at the path,
and to none where there is none, exactly when none strays; as where no package elsewhere has the path as
its short name. -/
theorem unqualified_resolution (p : Facts.Project)
    (plain : ∀ d ∈ Declaration.ofProject p, ':' ∉ d.type.name.toList) (path type : String)
    (unqualified : TypeName.qualifier? type = none) :
    (build p).resolve? path type =
      (Declaration.first? p path (TypeName.bare type)).map Declaration.id ∧
    (StaysAt p path type ↔ ¬ Strays p path (TypeName.bare type)) ∧
    ((∀ q ∈ p.packages, q.name = path → q.path = path) → StaysAt p path type) := by
  have stays : StaysAt p path type ↔ ¬ Strays p path (TypeName.bare type) :=
    staysAt_iff plain unqualified
  refine ⟨resolve?_eq_first plain (by rw [unqualified, Option.getD_none]), stays, fun own => ?_⟩
  refine stays.mpr ?_
  rintro ⟨before, d, after, split, -, short, away, -⟩
  have mem : d ∈ Declaration.ofProject p := by
    rw [split]
    exact List.mem_append_right _ List.mem_cons_self
  exact away (own d.package (Declaration.mem_ofProject.mp mem).1 short)

def declaring (name fullName : String) (interfaces structs : List String) : Facts.Package :=
  let type (typeName : String) : Facts.TypeDecl := ⟨typeName, name, [], [], true, ⟨"t.go", 1, 9⟩⟩
  { id := fullName, name, fullName, sourceFiles := [], imports := []
    structs := structs.map type, interfaces := interfaces.map type, functions := [] }

theorem unqualified_resolution_hub :
    let p := { Facts.Project.empty with
      packages := [declaring "models" "pkg/hub/models" [] ["Event"],
        declaring "hub" "pkg/hub" ["Sink"] ["Hub"]] }
    (∀ d ∈ Declaration.ofProject p, ':' ∉ d.type.name.toList) ∧
    TypeName.qualifier? "map[string]*Hub" = none ∧
    (∀ q ∈ p.packages, q.name = "pkg/hub" → q.path = "pkg/hub") ∧
    (build p).resolve? "pkg/hub" "map[string]*Hub" = some "pkg/hub.Hub" ∧
    StaysAt p "pkg/hub" "map[string]*Hub" := by
  intro p
  have plain : ∀ d ∈ Declaration.ofProject p, ':' ∉ d.type.name.toList := by decide
  have unqualified : TypeName.qualifier? "map[string]*Hub" = none := by decide
  have own : ∀ q ∈ p.packages, q.name = "pkg/hub" → q.path = "pkg/hub" := by decide
  obtain ⟨-, -, stays⟩ := unqualified_resolution p plain "pkg/hub" "map[string]*Hub" unqualified
  exact ⟨plain, unqualified, own, by decide, stays own⟩

/-- The short name of the first package is the path of the second. -/
def sharedHub : Facts.Project :=
  { Facts.Project.empty with
    packages := [declaring "hub" "pkg/hub" ["Sink"] ["Hub"], declaring "core" "hub" ["Sink"] []] }

/-- The second package gets the types of the first, instead of its own and where it has none. -/
theorem unqualified_resolution_astray_sharedHub :
    (∀ d ∈ Declaration.ofProject sharedHub, ':' ∉ d.type.name.toList) ∧
    TypeName.qualifier? "Sink" = none ∧ TypeName.qualifier? "Hub" = none ∧
    DeclaredAt sharedHub "hub" "Sink" ∧
    (build sharedHub).resolve? "hub" "Sink" = some "pkg/hub.Sink" ∧
    ¬ StaysAt sharedHub "hub" "Sink" ∧
    ¬ DeclaredAt sharedHub "hub" "Hub" ∧
    (build sharedHub).resolve? "hub" "Hub" = some "pkg/hub.Hub" ∧
    ¬ StaysAt sharedHub "hub" "Hub" := by
  have sink : (build sharedHub).resolve? "hub" "Sink" = some "pkg/hub.Sink" := by decide
  have hub : (build sharedHub).resolve? "hub" "Hub" = some "pkg/hub.Hub" := by decide
  have missing : ¬ DeclaredAt sharedHub "hub" (TypeName.bare "Hub") := by decide
  refine ⟨by decide, by decide, by decide, by decide, sink, fun stays => ?_, missing, hub,
    fun stays => missing ((stays _).mp hub).1⟩
  have own : "pkg/hub.Sink" = "hub" ++ "." ++ TypeName.bare "Sink" := ((stays _).mp sink).2
  revert own
  decide

end TypeIndex

end ArchAtlas
