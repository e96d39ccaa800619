import ArchAtlas.Proofs.Codec.Record
import Mathlib.Data.List.Forall2
import Mathlib.Data.List.Perm.Basic
import Mathlib.Data.String.Basic

namespace ArchAtlas

theorem lookup_of_mem {ν : Type} {members : List (String × ν)}
    (distinct : (members.map Prod.fst).Nodup) {key : String} {v : ν} (mem : (key, v) ∈ members) :
    members.lookup key = some v := by
  induction members with
  | nil => cases mem
  | cons member rest ih =>
    obtain ⟨fresh, distinct⟩ := List.nodup_cons.mp distinct
    rcases List.mem_cons.mp mem with rfl | later
    · exact List.lookup_cons_self
    · have apart : member.1 ≠ key := by
        rintro rfl
        exact fresh (List.mem_map.mpr ⟨_, later, rfl⟩)
      rw [lookup_cons_of_ne apart, ih distinct later]

theorem lookup_of_perm {ν : Type} {members others : List (String × ν)} (perm : members.Perm others)
    (distinct : (members.map Prod.fst).Nodup) (key : String) :
    members.lookup key = others.lookup key := by
  have distinct' : (others.map Prod.fst).Nodup := (perm.map Prod.fst).nodup_iff.mp distinct
  have same : occurrences key members = occurrences key others := (perm.map Prod.fst).count_eq key
  cases found : members.lookup key with
  | none =>
    rw [lookup_eq_none_iff_occurrences, same] at found
    exact ((lookup_eq_none_iff_occurrences key others).mpr found).symm
  | some v =>
    have mem : (key, v) ∈ members := by
      obtain ⟨front, back, rfl, -⟩ := List.lookup_eq_some_iff.mp found
      simp
    exact (lookup_of_mem distinct' (perm.subset mem)).symm

namespace Json

/-- The same value, but for the order of the members of its objects. -/
inductive Rearranged : Json → Json → Prop where
  | same (v : Json) : Rearranged v v
  | arr {items others : List Json} (each : List.Forall₂ Rearranged items others) :
      Rearranged (.arr items) (.arr others)
  | obj {members moved : List (String × Json)} {values : List Json}
      (each : List.Forall₂ Rearranged (members.map Prod.snd) values)
      (perm : moved.Perm ((members.map Prod.fst).zip values)) :
      Rearranged (.obj members) (.obj moved)

namespace Rearranged

theorem ne_null {v w : Json} (h : Rearranged v w) (present : v ≠ .null) : w ≠ .null := by
  cases h with
  | same => exact present
  | arr => nofun
  | obj => nofun

theorem of_arr {items : List Json} {v : Json} (h : Rearranged (.arr items) v) :
    ∃ others, v = .arr others ∧ List.Forall₂ Rearranged items others := by
  cases h with
  | same => exact ⟨items, rfl, List.forall₂_same.mpr fun v _ => .same v⟩
  | arr each => exact ⟨_, rfl, each⟩

theorem of_obj {members : List (String × Json)} {v : Json} (h : Rearranged (.obj members) v) :
    ∃ moved values, v = .obj moved ∧ List.Forall₂ Rearranged (members.map Prod.snd) values ∧
      moved.Perm ((members.map Prod.fst).zip values) := by
  cases h with
  | same =>
    exact ⟨members, members.map Prod.snd, rfl, List.forall₂_same.mpr fun v _ => .same v,
      .of_eq (List.zip_of_prod rfl rfl)⟩
  | obj each perm => exact ⟨_, _, rfl, each, perm⟩

theorem of_perm {members moved : List (String × Json)} (perm : moved.Perm members) :
    Rearranged (.obj members) (.obj moved) := by
  apply Rearranged.obj (List.forall₂_same.mpr fun v _ => .same v)
  exact perm.trans (.of_eq (List.zip_of_prod rfl rfl))

/-- Under each key there is what was there before, itself rearranged. -/
theorem lookup_zip {members : List (String × Json)} {values : List Json}
    (each : List.Forall₂ Rearranged (members.map Prod.snd) values) (key : String) :
    Option.Rel Rearranged (members.lookup key) (((members.map Prod.fst).zip values).lookup key) := by
  induction members generalizing values with
  | nil => exact .none
  | cons member rest ih =>
    obtain ⟨k, v⟩ := member
    cases each with
    | @cons _ w _ values first later =>
      by_cases same : k = key
      · subst same
        simpa using Option.Rel.some first
      · rw [List.map_cons, List.zip_cons_cons, lookup_cons_of_ne same, lookup_cons_of_ne same]
        exact ih later

/-- A rearranged object with distinct keys has the same keys, and under each what was there before. -/
theorem of_obj_distinct {members : List (String × Json)} {v : Json}
    (h : Rearranged (.obj members) v) (distinct : (members.map Prod.fst).Nodup) :
    ∃ moved, v = .obj moved ∧ (moved.map Prod.fst).Nodup ∧
      ∀ key, Option.Rel Rearranged (members.lookup key) (moved.lookup key) := by
  obtain ⟨moved, values, rfl, each, perm⟩ := h.of_obj
  have length : members.length = values.length := by
    simpa using each.length_eq
  have keys : ((members.map Prod.fst).zip values).map Prod.fst = members.map Prod.fst :=
    List.map_fst_zip (by simp [length])
  have distinct' : (moved.map Prod.fst).Nodup := by
    rw [(perm.map Prod.fst).nodup_iff, keys]
    exact distinct
  refine ⟨moved, rfl, distinct', fun key => ?_⟩
  rw [lookup_of_perm perm distinct']
  exact lookup_zip each key

end Rearranged

/-! ## Tables -/

section Tables

variable {α : Type}

/-- Entries under different keys can be put in in either order. -/
theorem insertMember_comm {k l : String} (apart : k ≠ l) (v w : α) (entries : List (String × α)) :
    insertMember k v (insertMember l w entries) = insertMember l w (insertMember k v entries) := by
  induction entries with
  | nil =>
    rcases lt_or_gt_of_ne apart with less | more
    · simp [insertMember, less, less.not_gt, less.ne']
    · simp [insertMember, more, more.not_gt, more.ne']
  | cons entry rest ih =>
    obtain ⟨m, x⟩ := entry
    grind [insertMember]

theorem insertMember_of_last {k : String} (v : α) {entries : List (String × α)}
    (last : ∀ e ∈ entries, e.1 < k) : insertMember k v entries = entries ++ [(k, v)] := by
  induction entries with
  | nil => rfl
  | cons entry rest ih =>
    obtain ⟨before, later⟩ := List.forall_mem_cons.mp last
    simp [insertMember, before.not_gt, before.ne', ih later]

/-- Entries that are put in one by one, in any order, come to stand in the order of their keys. -/
theorem foldl_insertMember {entries moved : List (String × α)}
    (ordered : entries.Pairwise fun a b => a.1 < b.1) (perm : moved.Perm entries) :
    moved.foldl (fun acc e => insertMember e.1 e.2 acc) [] = entries := by
  have inOrder : ∀ front back : List (String × α), (front ++ back).Pairwise (fun a b => a.1 < b.1) →
      back.foldl (fun acc e => insertMember e.1 e.2 acc) front = front ++ back := by
    intro front back
    induction back generalizing front with
    | nil => simp
    | cons e rest ih =>
      intro ordered
      have last : ∀ d ∈ front, d.1 < e.1 := by
        intro d mem
        exact (List.pairwise_append.mp ordered).2.2 d mem e (by simp)
      rw [List.foldl_cons, insertMember_of_last e.2 last]
      simpa using ih (front ++ [e]) (by simpa using ordered)
  have distinct : ∀ a ∈ entries, ∀ b ∈ entries, a.1 = b.1 → a = b := by
    have keys : (entries.map Prod.fst).Nodup := by
      rw [List.Nodup, List.pairwise_map]
      exact ordered.imp fun less => less.ne
    exact fun a ha b hb => List.inj_on_of_nodup_map keys ha hb
  calc moved.foldl (fun acc e => insertMember e.1 e.2 acc) []
      = entries.foldl (fun acc e => insertMember e.1 e.2 acc) [] := by
        apply perm.foldl_eq'
        intro a ha b hb acc
        by_cases same : a.1 = b.1
        · rw [distinct a (perm.subset ha) b (perm.subset hb) same]
        · exact (insertMember_comm same a.2 b.2 acc).symm
    _ = entries := inOrder [] entries ordered

end Tables

end Json

end ArchAtlas
