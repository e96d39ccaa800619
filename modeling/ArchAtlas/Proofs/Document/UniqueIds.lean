import ArchAtlas.Proofs.Document.Entities

/-!
When a project has no document. Two declared types can have one id: in one package, in two packages of
one path, or where a point in a path and a point in a name make the same text. Then no document is made,
and the error names the first declaration whose id was there before, in the order of entities.

* `declarations` lists the declared types in that order, and `entities_eq` ties the entities to them;
* `FirstRepeat` says which declaration the error is about, `FirstRepeat.unique` that there is only one;
* `firstDuplicate?_from` carries the search past one entity after another, and
  `firstDuplicate?_eq_some_iff` says what it finds from the start;
* `FirstsOf` says of a list that it is another one without repetitions.
-/

namespace ArchAtlas.Document

/-! ## The first repetition -/

/-- `later` is the first item with a key that occurs before it, and `earlier` is the item that has it
there. -/
inductive FirstRepeat {α κ : Type} (key : α → κ) (items : List α) (earlier later : α) : Prop where
  | intro (front back : List α) (split : items = front ++ later :: back)
      (distinct : (front.map key).Nodup) (before : earlier ∈ front) (same : key earlier = key later)

namespace FirstRepeat

variable {α κ : Type} {key : α → κ} {items : List α}

theorem not_nodup {x y : α} (h : FirstRepeat key items x y) : ¬ (items.map key).Nodup := by
  obtain ⟨front, back, rfl, -, before, same⟩ := h
  intro nodup
  rw [List.map_append, List.nodup_append] at nodup
  exact nodup.2.2 _ (List.mem_map_of_mem before) _ (by simp) same

/-- What is in front of a first repetition is in front of every other. -/
theorem not_shorter {front gap back : List α} {x y z : α} (before : x ∈ front) (same : key x = key y)
    (split : gap ++ z :: back = y :: items) (distinct : ((front ++ gap).map key).Nodup) : gap = [] := by
  cases gap with
  | nil => rfl
  | cons g gap =>
    obtain ⟨rfl, -⟩ := List.cons.inj split
    rw [List.map_append, List.nodup_append] at distinct
    exact absurd same (distinct.2.2 _ (List.mem_map_of_mem before) _ (by simp))

theorem unique {x y x' y' : α} (h : FirstRepeat key items x y) (h' : FirstRepeat key items x' y') :
    x = x' ∧ y = y' := by
  obtain ⟨front, back, rfl, distinct, before, same⟩ := h
  obtain ⟨front', back', split, distinct', before', same'⟩ := h'
  -- The shorter of the two fronts would leave a repetition in the longer one.
  have fronts : front = front' := by
    rcases List.append_eq_append_iff.mp split with ⟨gap, rfl, rest⟩ | ⟨gap, rfl, rest⟩
    · rw [not_shorter before same rest.symm distinct', List.append_nil]
    · rw [not_shorter before' same' rest.symm distinct, List.append_nil]
  subst fronts
  obtain ⟨rfl, -⟩ := List.cons.inj (List.append_cancel_left split)
  exact ⟨List.inj_on_of_nodup_map distinct before before' (same.trans same'.symm), rfl⟩

/-- Images repeat a key where the items do. -/
theorem map_iff {β : Type} {f : β → α} {items : List β} {x y : α} :
    FirstRepeat key (items.map f) x y ↔
      ∃ x' y', FirstRepeat (fun b => key (f b)) items x' y' ∧ f x' = x ∧ f y' = y := by
  constructor
  · rintro ⟨front, back, split, distinct, before, same⟩
    obtain ⟨front', rest, rfl, rfl, rest'⟩ := List.map_eq_append_iff.mp split
    obtain ⟨y', back', rfl, rfl, rfl⟩ := List.map_eq_cons_iff.mp rest'
    obtain ⟨x', before', rfl⟩ := List.mem_map.mp before
    rw [List.map_map] at distinct
    exact ⟨x', y', ⟨front', back', rfl, distinct, before', same⟩, rfl, rfl⟩
  · rintro ⟨x', y', ⟨front, back, rfl, distinct, before, same⟩, rfl, rfl⟩
    refine ⟨front.map f, back.map f, by simp, ?_, List.mem_map_of_mem before, same⟩
    rw [List.map_map]
    exact distinct

end FirstRepeat

/-- Keys repeat exactly where two places have one. -/
theorem not_nodup_iff_places {α κ : Type} {key : α → κ} {items : List α} :
    ¬ (items.map key).Nodup ↔
      ∃ (i j : Nat) (x y : α), i < j ∧ items[i]? = some x ∧ items[j]? = some y ∧ key x = key y := by
  rw [List.Nodup, List.pairwise_map, List.pairwise_iff_getElem]
  constructor
  · intro repeated
    simp only [not_forall, not_not] at repeated
    obtain ⟨i, j, hi, hj, less, same⟩ := repeated
    exact ⟨i, j, _, _, less, List.getElem?_eq_getElem hi, List.getElem?_eq_getElem hj, same⟩
  · rintro ⟨i, j, x, y, less, hi, hj, same⟩ distinct
    obtain ⟨bound, rfl⟩ := List.getElem?_eq_some_iff.mp hi
    obtain ⟨bound', rfl⟩ := List.getElem?_eq_some_iff.mp hj
    exact distinct i j bound bound' less same

/-! ## The search for it -/

def duplicateOf (earlier later : Entity) : DuplicateId :=
  ⟨later.id, earlier.location.file, later.location.file⟩

/-- What the search keeps of the entities that it has passed, the last first. -/
def passed (front : List Entity) : List (String × String) :=
  front.reverse.map fun e => (e.id, e.location.file)

/-- The search goes on from entities without a repetition: it stops at the next entity, or passes it and
goes on from one more. -/
theorem firstDuplicate?_from {front rest : List Entity} {duplicate : DuplicateId}
    (distinct : (front.map Entity.id).Nodup)
    (found : firstDuplicate? (passed front) rest = some duplicate) :
    ∃ x y, FirstRepeat Entity.id (front ++ rest) x y ∧ duplicate = duplicateOf x y := by
  induction rest generalizing front with
  | nil => cases found
  | cons e rest ih =>
    rw [firstDuplicate?] at found
    cases known : (passed front).lookup e.id with
    | some file =>
      rw [known] at found
      obtain rfl := Option.some.inj found
      obtain ⟨x, before, pair⟩ := List.mem_map.mp (mem_of_lookup known)
      obtain ⟨same, rfl⟩ := Prod.mk.inj pair
      exact ⟨x, e, ⟨front, rest, rfl, distinct, List.mem_reverse.mp before, same⟩, rfl⟩
    | none =>
      rw [known] at found
      have longer : passed (front ++ [e]) = (e.id, e.location.file) :: passed front := by
        simp [passed]
      have new : e.id ∉ front.map Entity.id := by
        intro mem
        obtain ⟨x, before, same⟩ := List.mem_map.mp mem
        have absent := List.lookup_eq_none_iff.mp known (x.id, x.location.file)
          (List.mem_map_of_mem (List.mem_reverse.mpr before))
        simp [same] at absent
      have distinct' : ((front ++ [e]).map Entity.id).Nodup := by
        rw [List.map_append, List.map_singleton, ← List.concat_eq_append]
        exact distinct.concat new
      rw [List.append_cons front e rest]
      exact ih distinct' (longer ▸ found)

theorem firstDuplicate?_eq_some_iff {entities : List Entity} {duplicate : DuplicateId} :
    firstDuplicate? [] entities = some duplicate ↔
      ∃ x y, FirstRepeat Entity.id entities x y ∧ duplicate = duplicateOf x y := by
  have fromStart (duplicate : DuplicateId) (found : firstDuplicate? [] entities = some duplicate) :
      ∃ x y, FirstRepeat Entity.id entities x y ∧ duplicate = duplicateOf x y :=
    @firstDuplicate?_from [] entities duplicate List.nodup_nil found
  constructor
  · exact fromStart duplicate
  · rintro ⟨x, y, first, rfl⟩
    cases search : firstDuplicate? [] entities with
    | none => exact absurd (firstDuplicate?_nil_eq_none_iff.mp search) first.not_nodup
    | some found =>
      obtain ⟨x', y', first', rfl⟩ := fromStart found search
      obtain ⟨rfl, rfl⟩ := first.unique first'
      rfl

/-! ## Declarations in the order of entities -/

/-- The declared types of a project, package by package, the structs of a package before its
interfaces. -/
def declarations (p : Facts.Project) : List Declaration :=
  p.packages.flatMap fun pkg =>
    (pkg.structs.map fun t => ⟨pkg, t, .struct⟩) ++ pkg.interfaces.map fun t => ⟨pkg, t, .interface⟩

theorem entities_eq (p : Facts.Project) :
    p.packages.flatMap ofPackage = (declarations p).map ofDeclaration := by
  rw [declarations, List.map_flatMap]
  refine List.flatMap_congr fun pkg _ => ?_
  rw [List.map_append, List.map_map, List.map_map]
  rfl

/-- An entity stands for a declared type. -/
structure Depicts (d : Declaration) (e : Entity) : Prop where
  id : e.id = d.id
  name : e.name = d.type.name
  kind : e.kind = kindOf d.kind
  visibility : e.visibility = .ofExported d.type.exported
  location : e.location = d.type.location

/-! ## Source files -/

/-- A list without repetitions of what another has, in the order in which that has it first. -/
structure FirstsOf (items kept : List String) : Prop where
  nodup : kept.Nodup
  mem_iff : ∀ x, x ∈ kept ↔ x ∈ items
  ordered : kept.Pairwise fun x y => items.idxOf x < items.idxOf y

theorem firstsOf_eraseDups (items : List String) : FirstsOf items items.eraseDups := by
  refine ⟨nodup_eraseDups items, fun _ => List.mem_eraseDups, ?_⟩
  have ordered := eraseDups_filterMap_ordered some items
  simpa [List.idxOf, beq_eq_decide] using ordered

theorem ofProject_sourceFiles {timestamp : String} {p : Facts.Project}
    {implementations : List Matching.Implementation} {d : Document}
    (h : ofProject timestamp p implementations = .ok d) :
    d.sourceFiles = (p.packages.flatMap Facts.Package.sourceFiles).eraseDups := by
  simp only [ofProject, bind, Except.bind, pure, Except.pure] at h
  split at h
  · cases h
  · cases h
    rfl

/-- A project has no document exactly when two of its declarations, of one package or of two, have the
same id. The error then names the first declaration, in the order of entities, whose id occurs before
it, with the file of the declaration that has it there and its own. Otherwise the document has one
entity for each declaration in that order, and the files of the packages in the order in which they first
occur, each once. -/
theorem document_refused_iff_ids_repeat (timestamp : String) (p : Facts.Project)
    (implementations : List Matching.Implementation) :
    let outcome := ofProject timestamp p implementations
    ((∃ error, outcome = .error error) ↔
      ∃ (i j : Nat) (x y : Declaration), i < j ∧ (declarations p)[i]? = some x ∧
        (declarations p)[j]? = some y ∧ x.id = y.id) ∧
    (∀ error, outcome = .error error ↔
      ∃ x y, FirstRepeat Declaration.id (declarations p) x y ∧
        error = ⟨y.id, x.type.location.file, y.type.location.file⟩) ∧
    ∀ d, outcome = .ok d →
      List.Forall₂ Depicts (declarations p) d.entities ∧
      FirstsOf (p.packages.flatMap Facts.Package.sourceFiles) d.sourceFiles := by
  intro outcome
  have ids : ((p.packages.flatMap ofPackage).map Entity.id) = (declarations p).map Declaration.id := by
    rw [entities_eq, List.map_map]
    rfl
  refine ⟨?_, ?_, ?_⟩
  · rw [← not_nodup_iff_places, ← ids]
    simp only [outcome, ofProject_eq_error_iff]
    rw [← firstDuplicate?_nil_eq_none_iff, ← Option.ne_none_iff_exists']
  · intro error
    rw [ofProject_eq_error_iff, firstDuplicate?_eq_some_iff, entities_eq]
    constructor
    · rintro ⟨_, _, first, rfl⟩
      obtain ⟨x, y, first', rfl, rfl⟩ := FirstRepeat.map_iff.mp first
      exact ⟨x, y, first', rfl⟩
    · rintro ⟨x, y, first, rfl⟩
      exact ⟨_, _, FirstRepeat.map_iff.mpr ⟨x, y, first, rfl, rfl⟩, rfl⟩
  · intro d made
    obtain ⟨entities, -, -⟩ := ofProject_eq_ok made
    rw [entities, ofProject_sourceFiles made, entities_eq]
    refine ⟨?_, firstsOf_eraseDups _⟩
    rw [List.forall₂_map_right_iff, List.forall₂_same]
    intro declared _
    exact ⟨rfl, rfl, rfl, rfl, rfl⟩

/-- A package with a struct and an interface, each in a file of its own. -/
def twoFiles (fullName struct interface : String) : Facts.Package where
  id := fullName
  name := fullName
  fullName
  sourceFiles := [fullName ++ "/s.go", fullName ++ "/i.go"]
  imports := []
  structs := [⟨struct, fullName, [], [], true, ⟨fullName ++ "/s.go", 1, 9⟩⟩]
  interfaces := [⟨interface, fullName, [], [], true, ⟨fullName ++ "/i.go", 1, 9⟩⟩]
  functions := []

/-- In the first project a name has a point where another id has one in its path. In the second two
packages share a path and their files. -/
theorem document_refused_iff_ids_repeat_pointInName :
    let project (packages : List Facts.Package) : Facts.Project :=
      { Facts.Project.empty with packages }
    let clash := project [twoFiles "a" "X" "b.C", twoFiles "a.b" "D" "C", twoFiles "c" "X" "X"]
    let apart := project [twoFiles "a" "X" "b.C", twoFiles "a.b" "D" "E", twoFiles "a" "Y" "Z"]
    ofProject "T" clash [] = .error ⟨"a.b.C", "a/i.go", "a.b/i.go"⟩ ∧
    ∃ d, ofProject "T" apart [] = .ok d ∧ List.Forall₂ Depicts (declarations apart) d.entities ∧
      d.sourceFiles = ["a/s.go", "a/i.go", "a.b/s.go", "a.b/i.go"] := by
  intro project clash apart
  have first : FirstRepeat Declaration.id (declarations clash)
      ⟨twoFiles "a" "X" "b.C", ⟨"b.C", "a", [], [], true, ⟨"a/i.go", 1, 9⟩⟩, .interface⟩
      ⟨twoFiles "a.b" "D" "C", ⟨"C", "a.b", [], [], true, ⟨"a.b/i.go", 1, 9⟩⟩, .interface⟩ :=
    ⟨(declarations clash).take 3, (declarations clash).drop 4, by decide, by decide, by decide,
      by decide⟩
  obtain ⟨d, made⟩ : ∃ d, ofProject "T" apart [] = .ok d := ⟨_, rfl⟩
  refine ⟨((document_refused_iff_ids_repeat "T" clash []).2.1 _).mpr ⟨_, _, first, rfl⟩, d, made,
    ((document_refused_iff_ids_repeat "T" apart []).2.2 d made).1, ?_⟩
  rw [ofProject_sourceFiles made]
  decide

end ArchAtlas.Document
