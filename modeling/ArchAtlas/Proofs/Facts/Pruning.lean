import ArchAtlas.Proofs.Facts.Reading

/-!
Deleting records from a project. `prune` takes away the records that are gone and leaves everything else
where it stands: the list of packages is a member of the project, the header all its other members, and
a package or an item is an element of a list. A package that is not written with the names of its fields
has its collections at the places of their keys.

* `prune_none`: to delete nothing is to change nothing;
* `prunePackage_shape`: a pruned package has its form, and its members changed one by one;
* `others_pruneMembers`, `lookup_pruneMembers`: the two parts of a pruned project.
-/

namespace ArchAtlas.Facts

/-- The items of a list, counted from `index`, without those that are gone. -/
def pruneItems (gone : Nat → Bool) : (index : Nat) → List Json → List Json
  | _, [] => []
  | index, item :: items =>
    if gone index then pruneItems gone (index + 1) items
    else item :: pruneItems gone (index + 1) items

/-- The value of a package's field without the items that are gone. Only collections lose items. -/
def pruneField (gone : Collection → Nat → Bool) (key : String) (v : Json) : Json :=
  match Collection.ofKey? key, v with
  | some c, .arr items => .arr (pruneItems (gone c) 0 items)
  | _, v => v

/-- Fields that are not named, each pruned by the key of its place. -/
def pruneSequence (gone : Collection → Nat → Bool) : (keys : List String) → List Json → List Json
  | key :: keys, item :: items => pruneField gone key item :: pruneSequence gone keys items
  | _, items => items

def prunePackage (gone : Collection → Nat → Bool) : Json → Json
  | .obj members => .obj (members.map fun m => (m.1, pruneField gone m.1 m.2))
  | .arr items => .arr (pruneSequence gone packageKeys items)
  | v => v

/-- The packages of a list, counted from `index`, without the records that are gone. -/
def prunePackages (gone : Locator → Bool) : (index : Nat) → List Json → List Json
  | _, [] => []
  | index, item :: items =>
    if gone (.package index) then prunePackages gone (index + 1) items
    else prunePackage (fun c place => gone (.item index c place)) item ::
      prunePackages gone (index + 1) items

def pruneMember (gone : Locator → Bool) (key : String) (v : Json) : Json :=
  match v with
  | .arr items => if key = "packages" then .arr (prunePackages gone 0 items) else v
  | _ => v

def pruneMembers (gone : Locator → Bool) (members : List (String × Json)) : List (String × Json) :=
  let kept := members.filter fun m => !gone (if m.1 = "packages" then .packages else .header)
  kept.map fun m => (m.1, pruneMember gone m.1 m.2)

/-- A project without the records that are gone. -/
def prune (gone : Locator → Bool) : Json → Json
  | .obj members => .obj (pruneMembers gone members)
  | v => v

@[simp]
theorem pruneItems_none (index : Nat) (items : List Json) :
    pruneItems (fun _ => false) index items = items := by
  induction items generalizing index with
  | nil => rfl
  | cons item items ih => simp [pruneItems, ih]

@[simp]
theorem pruneField_none (key : String) (v : Json) : pruneField (fun _ _ => false) key v = v := by
  simp only [pruneField]
  split <;> simp

@[simp]
theorem pruneSequence_none (keys : List String) (items : List Json) :
    pruneSequence (fun _ _ => false) keys items = items := by
  fun_induction pruneSequence (fun _ _ => false) keys items with
  | case1 key keys item items ih => simp [ih]
  | case2 => rfl

@[simp]
theorem prunePackage_none (v : Json) : prunePackage (fun _ _ => false) v = v := by
  cases v <;> simp [prunePackage]

@[simp]
theorem prunePackages_none (index : Nat) (items : List Json) :
    prunePackages (fun _ => false) index items = items := by
  induction items generalizing index with
  | nil => rfl
  | cons item items ih => simp [prunePackages, ih]

@[simp]
theorem pruneMember_none (key : String) (v : Json) : pruneMember (fun _ => false) key v = v := by
  cases v <;> simp [pruneMember]

/-- To delete nothing is to change nothing. -/
theorem prune_none (v : Json) : prune (fun _ => false) v = v := by
  cases v <;> simp [prune, pruneMembers]

section Package

variable (gone : Collection → Nat → Bool)

theorem length_pruneSequence (keys : List String) (items : List Json) :
    (pruneSequence gone keys items).length = items.length := by
  fun_induction pruneSequence gone keys items with
  | case1 key keys item items ih => simp [ih]
  | case2 => rfl

theorem zip_pruneSequence (keys : List String) (items : List Json) :
    keys.zip (pruneSequence gone keys items) =
      (keys.zip items).map fun m => (m.1, pruneField gone m.1 m.2) := by
  induction keys generalizing items with
  | nil => simp
  | cons key keys ih => cases items <;> simp [pruneSequence, ih]

/-- Pruning keeps the form of a package and changes its members one by one. -/
theorem prunePackage_shape {v : Json} {shape : Shape Json} (form : v.shape? = some shape) :
    ∃ pruned, (prunePackage gone v).shape? = some pruned ∧
      (pruned.Fits packageKeys ↔ shape.Fits packageKeys) ∧
      pruned.members packageKeys =
        (shape.members packageKeys).map fun m => (m.1, pruneField gone m.1 m.2) := by
  cases v with
  | obj members =>
    obtain rfl := Option.some.inj form
    refine ⟨_, rfl, ?_, rfl⟩
    simp only [Shape.Fits, occurrences_map]
  | arr items =>
    obtain rfl := Option.some.inj form
    refine ⟨_, rfl, ?_, zip_pruneSequence gone packageKeys items⟩
    simp only [Shape.Fits, length_pruneSequence]
  | _ => cases form

theorem pruneField_arr (c : Collection) (items : List Json) :
    pruneField gone c.key (.arr items) = .arr (pruneItems (gone c) 0 items) := by
  simp only [pruneField, Collection.ofKey?_key]

theorem pruneField_plain {key : String} (plain : key ∈ plainFields.keys) :
    pruneField gone key = id := by
  have elsewhere : ∀ key ∈ plainFields.keys, Collection.ofKey? key = none := by decide
  funext v
  simp only [pruneField, elsewhere key plain, id]

end Package

section Project

variable (gone : Locator → Bool) (members : List (String × Json))

theorem pruneMember_packages (items : List Json) :
    pruneMember gone "packages" (.arr items) = .arr (prunePackages gone 0 items) := by
  simp [pruneMember]

theorem pruneMember_of_ne {key : String} (other : key ≠ "packages") (v : Json) :
    pruneMember gone key v = v := by
  cases v <;> simp [pruneMember, other]

theorem others_pruneMembers :
    others (pruneMembers gone members) = if gone .header then [] else others members := by
  have apart : ∀ m ∈ others members, m.1 ≠ "packages" := fun m mem => by
    simpa using (List.mem_filter.mp mem).2
  calc
    others (pruneMembers gone members)
      = ((others members).filter fun m =>
            !gone (if m.1 = "packages" then .packages else .header)).map
          fun m => (m.1, pruneMember gone m.1 m.2) := by
        simp only [others, pruneMembers, List.filter_map, List.filter_filter, Function.comp_def,
          Bool.and_comm]
    _ = ((others members).filter fun _ => !gone .header).map
          fun m => (m.1, pruneMember gone m.1 m.2) := by
        rw [List.filter_congr fun m mem => by rw [if_neg (apart m mem)]]
    _ = (others members).filter fun _ => !gone .header := by
        refine (List.map_congr_left fun m mem => ?_).trans (List.map_id _)
        rw [pruneMember_of_ne gone (apart m (List.mem_of_mem_filter mem)), id]
    _ = if gone .header then [] else others members := by
        cases gone .header <;> simp

theorem lookup_pruneMembers :
    (pruneMembers gone members).lookup "packages" =
      if gone .packages then none
      else (members.lookup "packages").map (pruneMember gone "packages") := by
  rw [pruneMembers, lookup_map,
    lookup_filter (fun key => !gone (if key = "packages" then .packages else .header))]
  cases out : gone .packages <;> simp [out]

theorem occurrences_pruneMembers_le (key : String) :
    occurrences key (pruneMembers gone members) ≤ occurrences key members := by
  rw [pruneMembers, occurrences_map]
  exact (List.filter_sublist.map _).count_le key

end Project

end ArchAtlas.Facts
