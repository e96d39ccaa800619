import ArchAtlas.Proofs.Codec.Recovery

namespace ArchAtlas

variable {α π : Type}

namespace Json

mutual

/-- The value without the members at the places that are gone. Items of a sequence have no place. -/
def without (gone : List String → Bool) : Json → Json
  | .obj members => .obj (withoutMembers gone members)
  | v => v

def withoutMembers (gone : List String → Bool) : List (String × Json) → List (String × Json)
  | [] => []
  | (key, v) :: rest =>
    if gone [key] then withoutMembers gone rest
    else (key, v.without fun path => gone (key :: path)) :: withoutMembers gone rest

end

def at? (v : Json) : List String → Option Json
  | [] => some v
  | key :: path => (v.get? key).bind fun w => w.at? path

section

variable (gone : List String → Bool)

/-- Members go or stay by their own keys, and those that stay lose what lies within. -/
theorem withoutMembers_eq (members : List (String × Json)) :
    withoutMembers gone members =
      (members.filter fun m => !gone [m.1]).map
        fun m => (m.1, m.2.without fun path => gone (m.1 :: path)) := by
  induction members with
  | nil => rfl
  | cons member rest ih =>
    obtain ⟨key, v⟩ := member
    cases out : gone [key] <;> simp [withoutMembers, out, ih]

theorem lookup_withoutMembers (key : String) (members : List (String × Json)) :
    (withoutMembers gone members).lookup key =
      if gone [key] then none
      else (members.lookup key).map (without fun path => gone (key :: path)) := by
  rw [withoutMembers_eq, lookup_map fun key => without fun path => gone (key :: path),
    lookup_filter fun key => !gone [key]]
  cases gone [key] <;> rfl

theorem withoutMembers_keys_sublist (members : List (String × Json)) :
    ((withoutMembers gone members).map Prod.fst).Sublist (members.map Prod.fst) := by
  rw [withoutMembers_eq, List.map_map]
  exact List.filter_sublist.map Prod.fst

/-- Nothing is left at a place that is gone. -/
theorem at?_without (v : Json) {path : List String} (within : path ≠ []) (out : gone path = true) :
    (v.without gone).at? path = none := by
  induction path generalizing v gone with
  | nil => exact absurd rfl within
  | cons key path ih =>
    cases v with
    | obj members =>
      simp only [without, at?, get?, lookup_withoutMembers]
      cases here : gone [key] with
      | true => rfl
      | false =>
        cases members.lookup key with
        | none => rfl
        | some w =>
          have deeper : path ≠ [] := by
            rintro rfl
            rw [out] at here
            cases here
          exact ih _ w deeper out
    | _ => rfl

end

mutual

/-- To take nothing away is to change nothing. -/
theorem without_none (v : Json) : v.without (fun _ => false) = v := by
  cases v with
  | obj members => rw [without, withoutMembers_none members]
  | _ => rfl

theorem withoutMembers_none (members : List (String × Json)) :
    withoutMembers (fun _ => false) members = members := by
  match members with
  | [] => rfl
  | (key, v) :: rest =>
    rw [withoutMembers, without_none v, withoutMembers_none rest]
    rfl

end

/-- What a member becomes when members are taken away and the rest is rearranged. -/
def Remains (gone : List String → Bool) (key : String) (written found : Option Json) : Prop :=
  Option.Rel Rearranged
    (if gone [key] then none else written.map (without fun path => gone (key :: path))) found

end Json

namespace Codec

/-- What is written of `a`, without the members that are gone, is read as `b`. -/
def Refills (c : Codec Json α) (gone : List String → Bool) (a b : α) : Prop :=
  ∀ v, ((c.encode a).without gone).Rearranged v → c.decode v = .ok b

/-- Nothing that is written has members. -/
def Flat (c : Codec Json α) : Prop :=
  ∀ a gone, (c.encode a).without gone = c.encode a

/-- Where there are no members, none can be missing. -/
theorem Recovers.refills {c : Codec Json α} {a : α} (recovers : c.Recovers a) (flat : c.Flat)
    (gone : List String → Bool) : c.Refills gone a a := by
  intro v moved
  rw [flat a gone] at moved
  exact recovers v moved

theorem u64_flat (width : Width) : (u64 width : Codec Json UInt64).Flat := fun _ _ => rfl

theorem list_flat (c : Codec Json α) : c.list.Flat := fun _ _ => rfl

theorem real_flat : (real : Codec Json Float).Flat := by
  intro x gone
  cases finite : x.isFinite <;> simp [real, finite, Json.without]

theorem option_flat {c : Codec Json α} (flat : c.Flat) : c.option.Flat := by
  intro a gone
  cases a with
  | none => rfl
  | some x => exact flat x gone

section

variable (gone : List String → Bool)

theorem u64_refills (width : Width) (wide : width ≠ .u32) (n : UInt64) :
    (u64 width : Codec Json UInt64).Refills gone n n :=
  (u64_carries wide n).recovers.refills (u64_flat width) gone

theorem real_refills {x : Float} (finite : x.isFinite = true) :
    (real : Codec Json Float).Refills gone x x :=
  (real_carries finite).recovers.refills real_flat gone

theorem list_refills {c : Codec Json α} (carried : ∀ a, c.Carries a) (as : List α) :
    c.list.Refills gone as as :=
  (list_carries fun a _ => carried a).recovers.refills (list_flat c) gone

theorem option_refills {c : Codec Json α} (flat : c.Flat) (carried : ∀ a, c.Carries a)
    (a : Option α) : c.option.Refills gone a a :=
  (option_recovers fun a _ => carried a).refills (option_flat flat) gone

end

end Codec

/-! ## Records -/

/-- A field with a default takes the default where its member is gone, and else what its member, with
what is missing in it, is read as. -/
theorem Field.defaulted_reads {c : Codec Json α} {key : String} {value a b : α}
    {gone : List String → Bool} {out : Prop} [Decidable out] (told : gone [key] = decide out)
    (inner : c.Refills (fun path => gone (key :: path)) a b) {found : Option Json}
    (remains : Json.Remains gone key (((defaulted key c value).write a).lookup key) found) :
    (defaulted key c value).Reads found (if out then value else b) := by
  have written : ((defaulted key c value).write a).lookup key = some (c.encode a) :=
    lookup_write (defaulted key c value) a
  rw [Json.Remains, written, told] at remains
  by_cases gone : out
  · rw [if_pos (by simpa using gone)] at remains
    cases remains
    rw [if_pos gone]
    rfl
  · rw [if_neg (by simpa using gone), Option.map_some] at remains
    rw [if_neg gone]
    cases remains with
    | some moved => exact inner _ moved

namespace Fields

theorem firstUnknown_eq_none {known : List String} {start : Nat} {members : List (String × Json)}
    (all : ∀ m ∈ members, m.1 ∈ known) : firstUnknown known start members = none := by
  induction members generalizing start with
  | nil => rfl
  | cons member rest ih =>
    obtain ⟨here, later⟩ := List.forall_mem_cons.mp all
    rw [firstUnknown, if_pos here, ih later]

/-- A closed record is read as an open one where it has no members of its own. -/
theorem readMembers_of_known {fields : Fields Json π} {members : List (String × Json)}
    (known : ∀ m ∈ members, m.1 ∈ fields.keys) (closed : Bool) :
    fields.readMembers closed members = fields.readMembers false members := by
  simp only [readMembers, firstUnknown_eq_none known]

end Fields

/-- A record is refilled where its fields have distinct keys and each takes its part from what remains
of its member. -/
theorem Codec.recordWith_refills {closed : Bool} {name : String} {fields : Fields Json π}
    {build : π → α} {view : α → π} {gone : List String → Bool} {a b : α}
    (distinct : fields.keys.Nodup) (rebuilt : build (view b) = b)
    (passes : fields.Passes (Json.Remains gone) (view a) (view b)) :
    (recordWith closed name fields build view).Refills gone a b := by
  intro v moved
  have written := fields.write_keys_sublist (view a)
  have left := (Json.withoutMembers_keys_sublist gone (fields.write (view a))).trans written
  obtain ⟨members, rfl, once, same⟩ := Json.Rearranged.of_obj_distinct moved (distinct.sublist left)
  have known : ∀ m ∈ members, m.1 ∈ fields.keys := by
    rintro ⟨key, v⟩ mem
    by_contra unknown
    have nothing : (Json.withoutMembers gone (fields.write (view a))).lookup key = none := by
      rw [lookup_eq_none_iff_occurrences, occurrences, List.count_eq_zero]
      exact fun mem => unknown (left.subset mem)
    have found := same key
    rw [nothing, lookup_of_mem once mem] at found
    cases found
  calc (recordWith closed name fields build view).decode (.obj members)
      = (fields.readMembers closed members).map build := rfl
    _ = (record name fields build view).decode (.obj members) := by
        rw [Fields.readMembers_of_known known]
        rfl
    _ = .ok b := by
        apply record_decode distinct rebuilt passes once
        intro key
        have found := same key
        rwa [Json.lookup_withoutMembers] at found

end ArchAtlas
