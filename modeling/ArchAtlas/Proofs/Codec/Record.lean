import ArchAtlas.Codec.Basic
import Mathlib.Data.List.Nodup

/-!
When a record is read, and what is read. A record is read just if none of its fields is written twice,
none of its items is left over, and each field takes a value, from its own member or by default. The
order in which the members are written decides which fault is reported, but not this.

* `Field.read_eq_ok_iff`, `Fields.read_eq_ok_iff`: fields read from named members;
* `Fields.readItems_eq_ok_iff`: a sequence of items reads as the members that pair it with the keys;
* `Codec.record_decode_eq_ok_iff`: both forms together.
-/

namespace ArchAtlas

variable {ν α π : Type}

theorem Except.map_eq_ok_iff {ε β : Type} (f : α → β) (x : Except ε α) (b : β) :
    x.map f = .ok b ↔ ∃ a, x = .ok a ∧ f a = b := by
  cases x <;> simp [Except.map]

/-- The field takes `a` from the value of its member, or has it by default where there is none. -/
def Field.Reads (field : Field ν α) : Option ν → α → Prop
  | some v, a => field.codec.decode v = .ok a
  | none, a => field.absent = some a

/-- Every field takes its part of a product, each from the first member with its key. -/
def Fields.Reads (members : List (String × ν)) : {π : Type} → Fields ν π → π → Prop
  | _, .nil, _ => True
  | _, .cons field rest, (a, r) =>
    field.Reads (members.lookup field.key) a ∧ rest.Reads members r

def occurrences (key : String) (members : List (String × ν)) : Nat :=
  (members.map Prod.fst).count key

theorem occurrences_cons_self (key : String) (v : ν) (members : List (String × ν)) :
    occurrences key ((key, v) :: members) = occurrences key members + 1 :=
  List.count_cons_self

theorem occurrences_cons_of_ne {k key : String} (apart : k ≠ key) (v : ν)
    (members : List (String × ν)) :
    occurrences key ((k, v) :: members) = occurrences key members :=
  List.count_cons_of_ne apart

theorem lookup_cons_of_ne {k key : String} (apart : k ≠ key) (v : ν)
    (members : List (String × ν)) :
    ((k, v) :: members).lookup key = members.lookup key := by
  rw [List.lookup_cons, beq_false_of_ne apart.symm]

theorem lookup_eq_none_iff_occurrences (key : String) (members : List (String × ν)) :
    members.lookup key = none ↔ occurrences key members = 0 := by
  simp only [List.lookup_eq_none_iff, occurrences, List.count_eq_zero, List.mem_map, not_exists,
    not_and, bne_iff_ne, ne_comm]

/-- Values that change by their keys leave the keys as they are. -/
theorem occurrences_map (change : String → ν → ν) (key : String) (members : List (String × ν)) :
    occurrences key (members.map fun m => (m.1, change m.1 m.2)) = occurrences key members := by
  simp [occurrences, Function.comp_def]

theorem lookup_map (change : String → ν → ν) (key : String) (members : List (String × ν)) :
    (members.map fun m => (m.1, change m.1 m.2)).lookup key =
      (members.lookup key).map (change key) := by
  induction members with
  | nil => rfl
  | cons member rest ih =>
    obtain ⟨k, v⟩ := member
    by_cases same : k = key
    · subst same
      simp
    · rw [List.map_cons, lookup_cons_of_ne same, lookup_cons_of_ne same, ih]

theorem occurrences_filter (keep : String → Bool) (key : String) (members : List (String × ν)) :
    occurrences key (members.filter fun m => keep m.1) =
      if keep key then occurrences key members else 0 := by
  induction members with
  | nil => simp [occurrences]
  | cons member rest ih =>
    obtain ⟨k, v⟩ := member
    by_cases same : k = key
    · subst same
      cases kept : keep k <;> simp [kept, ih, occurrences_cons_self]
    · cases kept : keep k <;> simp [kept, ih, occurrences_cons_of_ne same]

theorem lookup_filter (keep : String → Bool) (key : String) (members : List (String × ν)) :
    (members.filter fun m => keep m.1).lookup key =
      if keep key then members.lookup key else none := by
  induction members with
  | nil => simp
  | cons member rest ih =>
    obtain ⟨k, v⟩ := member
    by_cases same : k = key
    · subst same
      cases kept : keep k <;> simp [kept, ih]
    · cases kept : keep k <;> simp [kept, ih, lookup_cons_of_ne same]

namespace Field

theorem locate_eq_none_iff (key : String) (start : Nat) (members : List (String × ν)) :
    locate key start members = none ↔ occurrences key members = 0 := by
  induction members generalizing start with
  | nil => exact ⟨fun _ => rfl, fun _ => rfl⟩
  | cons member rest ih =>
    obtain ⟨k, v⟩ := member
    by_cases same : k = key
    · subst same
      simp [locate, occurrences_cons_self]
    · simp only [locate, if_neg same, occurrences_cons_of_ne same, ih]

/-- A member is found under its key with its value, and a second one is found just if there is one. -/
theorem locate_eq_some {key : String} {start position : Nat} {members : List (String × ν)} {v : ν}
    {again : Option Nat} (found : locate key start members = some (position, v, again)) :
    members.lookup key = some v ∧ (again = none ↔ occurrences key members = 1) := by
  induction members generalizing start with
  | nil => cases found
  | cons member rest ih =>
    obtain ⟨k, w⟩ := member
    by_cases same : k = key
    · subst same
      simp only [locate, if_true, Option.some.injEq, Prod.mk.injEq] at found
      obtain ⟨-, rfl, rfl⟩ := found
      rw [Option.map_eq_none_iff, locate_eq_none_iff, occurrences_cons_self, Nat.add_eq_right]
      exact ⟨by simp, Iff.rfl⟩
    · rw [lookup_cons_of_ne same, occurrences_cons_of_ne same]
      exact ih (by simpa only [locate, if_neg same] using found)

theorem read_eq_ok_iff (field : Field ν α) (members : List (String × ν)) (a : α) :
    field.read members = .ok a ↔
      occurrences field.key members ≤ 1 ∧ field.Reads (members.lookup field.key) a := by
  cases place : locate field.key 0 members with
  | none =>
    have missing := (locate_eq_none_iff field.key 0 members).mp place
    rw [(lookup_eq_none_iff_occurrences field.key members).mpr missing, missing]
    simp only [read, place, Reads, Nat.zero_le, true_and]
    cases field.absent <;> simp
  | some found =>
    obtain ⟨position, v, again⟩ := found
    obtain ⟨value, once⟩ := locate_eq_some place
    have present : occurrences field.key members ≠ 0 := by
      rw [Ne, ← locate_eq_none_iff field.key 0, place]
      simp
    -- A second member is missed just if the first is the only one.
    have single : again = none ↔ occurrences field.key members ≤ 1 := by
      rw [once]
      omega
    rw [value, ← single]
    simp only [read, place, Reads]
    cases field.codec.decode v <;> cases again <;> simp

end Field

namespace Fields

theorem earlier_eq_ok_iff {β : Type} (x : Except (Nat × Fault) α) (y : Except (Nat × Fault) β)
    (a : α) (b : β) : earlier x y = .ok (a, b) ↔ x = .ok a ∧ y = .ok b := by
  cases x <;> cases y <;> simp [earlier]

theorem read_eq_ok_iff (fields : Fields ν π) (members : List (String × ν)) (r : π) :
    fields.read members = .ok r ↔
      (∀ key ∈ fields.keys, occurrences key members ≤ 1) ∧ fields.Reads members r := by
  induction fields with
  | nil => simp [read, keys, Reads]
  | cons field rest ih =>
    obtain ⟨a, r⟩ := r
    simp only [read, earlier_eq_ok_iff, field.read_eq_ok_iff, ih, keys, Reads,
      List.forall_mem_cons, and_assoc, and_left_comm]

/-- Only the values under the keys matter to the fields. -/
theorem reads_congr {members others : List (String × ν)} (fields : Fields ν π) (r : π)
    (same : ∀ key ∈ fields.keys, members.lookup key = others.lookup key) :
    fields.Reads members r ↔ fields.Reads others r := by
  induction fields with
  | nil => exact Iff.rfl
  | cons field rest ih =>
    obtain ⟨a, r⟩ := r
    obtain ⟨here, later⟩ := List.forall_mem_cons.mp same
    simp only [Reads, here, ih r later]

/-- A record that is written as the sequence of its items has the members that pair the keys of its
fields with them. -/
theorem readItems_eq_ok_iff (fields : Fields ν π) (distinct : fields.keys.Nodup) (name : String)
    (total index : Nat) (items : List ν) (r : π) :
    fields.readItems name total index items = .ok r ↔
      items.length ≤ fields.keys.length ∧ fields.Reads (fields.keys.zip items) r := by
  induction fields generalizing index items with
  | nil => cases items <;> simp [readItems, keys, Reads]
  | cons field rest ih =>
    obtain ⟨a, r⟩ := r
    obtain ⟨fresh, distinct⟩ := List.nodup_cons.mp distinct
    cases items with
    | nil =>
      have later := ih distinct (index + 1) [] r
      simp only [List.length_nil, Nat.zero_le, true_and, List.zip_nil_right] at later
      simp only [readItems, keys, Reads, Field.Reads, List.length_nil, Nat.zero_le, true_and,
        List.zip_nil_right, List.lookup_nil, ← later]
      cases field.absent with
      | none => simp
      | some b => cases rest.readItems name total (index + 1) [] <;> simp [Except.map]
    | cons v items =>
      -- The first key is none of the others, so its member hides none of theirs.
      have elsewhere : ∀ key ∈ rest.keys,
          ((field.key, v) :: rest.keys.zip items).lookup key = (rest.keys.zip items).lookup key := by
        intro key known
        exact lookup_cons_of_ne (ne_of_mem_of_not_mem known fresh).symm v _
      simp only [readItems, keys, Reads, Field.Reads, List.length_cons, Nat.add_le_add_iff_right,
        List.zip_cons_cons, List.lookup_cons_self, rest.reads_congr r elsewhere]
      rw [and_left_comm, ← ih distinct (index + 1) items r]
      cases field.codec.decode v with
      | error fault => simp
      | ok b => cases rest.readItems name total (index + 1) items <;> simp [Except.map]

/-- Members that no field asks for are no obstacle to an open record. -/
theorem readMembers_eq_ok_iff (fields : Fields ν π) (members : List (String × ν)) (r : π) :
    fields.readMembers false members = .ok r ↔ fields.read members = .ok r := by
  simp only [readMembers]
  cases fields.read members <;> simp [earlier]

end Fields

/-- The members of a record in either form; the items of a sequence stand for the first fields. -/
def Shape.members (keys : List String) : Shape ν → List (String × ν)
  | .named members => members
  | .positional items => keys.zip items

/-- No field is written twice, and no item is left over. -/
def Shape.Fits (keys : List String) : Shape ν → Prop
  | .named members => ∀ key ∈ keys, occurrences key members ≤ 1
  | .positional items => items.length ≤ keys.length

namespace Codec

variable [Medium ν]

/-- A record is read just if its form fits and every field takes a value. -/
theorem record_decode_eq_ok_iff (name : String) (fields : Fields ν π) (build : π → α)
    (view : α → π) (distinct : fields.keys.Nodup) (build_view : ∀ a, build (view a) = a)
    (view_build : ∀ r, view (build r) = r) (v : ν) (a : α) :
    (record name fields build view).decode v = .ok a ↔
      ∃ shape, Medium.fields name v = .ok shape ∧ shape.Fits fields.keys ∧
        fields.Reads (shape.members fields.keys) (view a) := by
  have built (r : π) : build r = a ↔ r = view a := by
    constructor
    · rintro rfl
      exact (view_build r).symm
    · rintro rfl
      exact build_view a
  simp only [record, recordWith]
  cases Medium.fields name v with
  | error fault => simp [bind, Except.bind]
  | ok shape =>
    simp only [bind, Except.bind, Except.ok.injEq, exists_eq_left']
    cases shape with
    | named members =>
      simp only [Except.map_eq_ok_iff, built, exists_eq_right, fields.readMembers_eq_ok_iff,
        fields.read_eq_ok_iff, Shape.Fits, Shape.members]
    | positional items =>
      simp only [Except.map_eq_ok_iff, built, exists_eq_right,
        fields.readItems_eq_ok_iff distinct, Shape.Fits, Shape.members]

/-- A codec that does not read a value. -/
def Refuses (codec : Codec ν α) (v : ν) : Prop :=
  ∃ fault, codec.decode v = .error fault

omit [Medium ν] in
/-- A sequence is read only if each of its items is. -/
theorem decodes_of_mem (codec : Codec ν α) {items : List ν} {as : List α}
    (read : decodeItems codec items = .ok as) {v : ν} (mem : v ∈ items) :
    ∃ a, codec.decode v = .ok a := by
  fun_induction decodeItems codec items generalizing as with
  | case1 => cases mem
  | case2 => cases read
  | case3 => cases read
  | case4 w rest a here bs later ih =>
    rcases List.mem_cons.mp mem with rfl | mem
    · exact ⟨a, here⟩
    · exact ih later mem

end Codec

namespace Json

/-- The form in which a value is written as a record. -/
def shape? : Json → Option (Shape Json)
  | .obj members => some (.named members)
  | .arr items => some (.positional items)
  | _ => none

theorem fields_eq_ok_iff (name : String) (v : Json) (shape : Shape Json) :
    Medium.fields name v = .ok shape ↔ v.shape? = some shape := by
  cases v <;> simp [Medium.fields, shape?, mismatch]

theorem list_decode_eq_ok_iff (codec : Codec Json α) (v : Json) (as : List α) :
    codec.list.decode v = .ok as ↔
      ∃ items, v = .arr items ∧ codec.decodeItems items = .ok as := by
  cases v <;> simp [Codec.list, Medium.items, mismatch, Except.bind]

end Json

end ArchAtlas
