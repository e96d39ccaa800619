import ArchAtlas.Proofs.Distinct
import ArchAtlas.Table

namespace ArchAtlas

variable {α β κ : Type} [DecidableEq κ] {t : Table κ Nat} {keys : List κ} {key : κ} {i : Nat}

/-- A table gives each key of a list its place, and knows no other key. -/
def Table.Places (t : Table κ Nat) (keys : List κ) : Prop :=
  ∀ key i, t.get? key = some i ↔ keys[i]? = some key

namespace Table.Places

theorem empty : (Table.empty : Table κ Nat).Places [] := by
  intro key i
  simp

/-- A key has one place only. -/
theorem nodup (h : t.Places keys) : keys.Nodup := by
  rw [List.nodup_iff_injective_get]
  intro i j same
  have hi := (h (keys.get i) i).mpr (by simp)
  have hj := (h (keys.get i) j).mpr (by simpa using same.symm)
  exact Fin.ext (Option.some.inj (hi.symm.trans hj))

theorem get?_eq_none_iff (h : t.Places keys) : t.get? key = none ↔ key ∉ keys := by
  constructor
  · intro unknown mem
    obtain ⟨i, here⟩ := List.getElem?_of_mem mem
    rw [(h key i).mpr here] at unknown
    cases unknown
  · intro absent
    cases found : t.get? key with
    | none => rfl
    | some i => exact absurd (List.mem_of_getElem? ((h key i).mp found)) absent

theorem get?_eq_findIdx? {base : List β} {keyOf : β → κ} (h : t.Places (base.map keyOf)) (x : κ) :
    t.get? x = base.findIdx? fun b => keyOf b = x := by
  cases found : base.findIdx? fun b => keyOf b = x with
  | none =>
    refine h.get?_eq_none_iff.mpr fun mem => ?_
    obtain ⟨b, inside, same⟩ := List.mem_map.mp mem
    simpa [same] using List.findIdx?_eq_none_iff.mp found b inside
  | some i =>
    obtain ⟨bound, here, -⟩ := List.findIdx?_eq_some_iff_getElem.mp found
    refine (h x i).mpr ?_
    rw [List.getElem?_map, List.getElem?_eq_getElem bound, Option.map_some]
    exact congrArg some (of_decide_eq_true here)

/-- A new key gets the place behind all others. -/
theorem push (h : t.Places keys) (new : key ∉ keys) :
    (t.insert key keys.length).Places (keys ++ [key]) := by
  intro x i
  rw [Table.get?_insert]
  by_cases same : x = key
  · subst same
    rw [if_pos rfl]
    constructor
    · intro place
      simp [← Option.some.inj place]
    · intro here
      rcases Nat.lt_or_ge i keys.length with old | last
      · rw [List.getElem?_append_left old] at here
        exact absurd (List.mem_of_getElem? here) new
      · have bound := (List.getElem?_eq_some_iff.mp here).1
        rw [List.length_append, List.length_singleton] at bound
        exact congrArg some (by omega)
  · rw [if_neg same, h x i]
    rcases Nat.lt_or_ge i keys.length with old | last
    · rw [List.getElem?_append_left old]
    · rw [List.getElem?_append_right last, List.getElem?_eq_none last]
      cases i - keys.length <;> simp [Ne.symm same]

/-- What is changed at the place of a key is changed for that key alone. -/
theorem modify {base : List β} {keyOf : β → κ} (h : t.Places (base.map keyOf))
    (found : t.get? key = some i) (item : β → α) (change : α → α) :
    (base.map item).modify i change =
      base.map fun x => if keyOf x = key then change (item x) else item x := by
  have here := (h key i).mp found
  apply List.ext_getElem?
  intro j
  rw [List.getElem?_modify, List.getElem?_map, List.getElem?_map]
  cases at_j : base[j]? with
  | none => simp
  | some x =>
    have place : keyOf x = key ↔ i = j := by
      constructor
      · intro same
        have : t.get? key = some j := (h key j).mpr (by simp [at_j, same])
        exact Option.some.inj (found.symm.trans this)
      · rintro rfl
        simpa [at_j] using here
    by_cases same : i = j
    · simp [same, place.mpr same]
    · simp [same, mt place.mp same]

/-- Different keys that are entered in order have their places. -/
theorem ofList {base : List β} {keyOf : β → κ} (nodup : (base.map keyOf).Nodup) :
    (base.zipIdx.foldl (fun t o => t.insert (keyOf o.1) o.2) Table.empty).Places (base.map keyOf) := by
  induction base using List.reverseRecOn with
  | nil => exact .empty
  | append_singleton base x ih =>
    rw [List.map_append, List.map_singleton, List.nodup_append] at nodup
    obtain ⟨before, -, new⟩ := nodup
    have absent : keyOf x ∉ base.map keyOf := fun mem => new _ mem _ (by simp) rfl
    have last := (ih before).push absent
    rw [List.length_map] at last
    rw [List.zipIdx_append, List.foldl_append, List.map_append]
    simpa using last

end Table.Places

/-- Of the keys that are entered where there is none yet, each keeps its first place. -/
theorem Table.get?_insertNew_zipIdx (base : List β) (keyOf : β → κ) (t : Table κ Nat) (x : κ) :
    (base.zipIdx.foldl (fun t o => t.insertNew (keyOf o.1) o.2) t).get? x =
      (t.get? x).or (base.findIdx? fun b => keyOf b = x) := by
  induction base using List.reverseRecOn with
  | nil => simp
  | append_singleton base b ih =>
    rw [List.zipIdx_append, List.foldl_append, List.findIdx?_append]
    simp only [List.zipIdx_singleton, Nat.zero_add, List.foldl_cons, List.foldl_nil,
      Table.get?_insertNew, ih, Option.or_assoc, List.findIdx?_singleton]
    by_cases same : keyOf b = x
    · simp [same]
    · simp [same, Ne.symm same]

/-- Values that are put into sets stand in the set of their key, the last to come first; a key that none
was put under has no set. -/
theorem Table.get?_addTo_foldl [DecidableEq β] (pairs : List α) (keyOf : α → κ) (valueOf : α → β)
    (x : κ) :
    (pairs.foldl (fun t p => t.addTo (keyOf p) (valueOf p)) Table.empty).get? x =
      let values := ((pairs.filter fun p => keyOf p = x).map valueOf).eraseDups
      if values = [] then none else some values.reverse := by
  induction pairs using List.reverseRecOn with
  | nil => rfl
  | append_singleton pairs p ih =>
    rw [List.foldl_append, List.foldl_cons, List.foldl_nil, Table.addTo, Table.get?_insert,
      List.filter_append]
    by_cases same : x = keyOf p
    · subst same
      set values := (pairs.filter fun q => keyOf q = keyOf p).map valueOf
      have before : ((pairs.foldl (fun t p => t.addTo (keyOf p) (valueOf p)) Table.empty).get?
          (keyOf p)).getD [] = values.eraseDups.reverse := by
        rw [ih]
        dsimp only
        split
        · rename_i none
          rw [none]
          rfl
        · rfl
      have last : ((pairs.filter fun q => keyOf q = keyOf p) ++
          [p].filter fun q => keyOf q = keyOf p).map valueOf = values ++ [valueOf p] := by
        simp [values]
      rw [if_pos rfl, before, last, eraseDups_append_singleton]
      by_cases old : valueOf p ∈ values
      · have some : values.eraseDups ≠ [] :=
          List.ne_nil_of_mem (List.mem_eraseDups.mpr old)
        simp [old, some]
      · simp [old]
    · have none : ([p].filter fun q => keyOf q = x) = [] := by simp [Ne.symm same]
      rw [if_neg same, ih, none, List.append_nil]

theorem Table.contains_addTo_foldl [DecidableEq β] (pairs : List α) (keyOf : α → κ) (valueOf : α → β)
    (x : κ) :
    (pairs.foldl (fun t p => t.addTo (keyOf p) (valueOf p)) Table.empty).contains x =
      pairs.any fun p => keyOf p = x := by
  rw [Table.contains, Table.get?_addTo_foldl, Bool.eq_iff_iff, List.any_eq_true]
  constructor
  · intro some
    have values : ((pairs.filter fun p => keyOf p = x).map valueOf).eraseDups ≠ [] := by
      intro none
      simp [none] at some
    obtain ⟨v, mem⟩ := List.exists_mem_of_ne_nil _ values
    obtain ⟨p, inside, -⟩ := List.mem_map.mp (List.mem_eraseDups.mp mem)
    exact ⟨p, List.mem_filter.mp inside⟩
  · rintro ⟨p, mem, here⟩
    have values : valueOf p ∈ ((pairs.filter fun p => keyOf p = x).map valueOf).eraseDups :=
      List.mem_eraseDups.mpr (List.mem_map_of_mem (List.mem_filter.mpr ⟨mem, here⟩))
    simp [List.ne_nil_of_mem values]

theorem Table.length_addTo_foldl [DecidableEq β] (pairs : List α) (keyOf : α → κ) (valueOf : α → β)
    (x : κ) :
    ((pairs.foldl (fun t p => t.addTo (keyOf p) (valueOf p)) Table.empty).get? x).elim 0 List.length =
      ((pairs.filter fun p => keyOf p = x).map valueOf).eraseDups.length := by
  rw [Table.get?_addTo_foldl]
  dsimp only
  split
  · rename_i none
    rw [none]
    rfl
  · exact List.length_reverse

/-- An item is either changed at the place of its key, or put behind the others. -/
theorem Roster.put_cases {r : Roster κ α} (h : r.places.Places keys) (key : κ) (new : α)
    (change : α → α) :
    (∃ i, key ∈ keys ∧ r.places.get? key = some i ∧
      r.put key new change = ⟨r.items.modify i change, r.places⟩) ∨
    key ∉ keys ∧ r.put key new change = ⟨r.items ++ [new], r.places.insert key r.items.length⟩ := by
  unfold Roster.put
  cases found : r.places.get? key with
  | some i => exact Or.inl ⟨i, List.mem_of_getElem? ((h key i).mp found), rfl, rfl⟩
  | none => exact Or.inr ⟨h.get?_eq_none_iff.mp found, rfl⟩

/-- What holds of the items and of a new one, and is kept by a change, holds of all items after it. -/
theorem Roster.forall_put {r : Roster κ α} {P : α → Prop} (h : ∀ x ∈ r.items, P x) {new : α}
    (own : P new) {change : α → α} (kept : ∀ x, P x → P (change x)) :
    ∀ x ∈ (r.put key new change).items, P x := by
  unfold Roster.put
  intro x mem
  split at mem
  · rename_i i _
    obtain ⟨j, here⟩ := List.getElem?_of_mem mem
    rw [List.getElem?_modify] at here
    obtain ⟨y, there, rfl⟩ := Option.map_eq_some_iff.mp here
    have before := h y (List.mem_of_getElem? there)
    split
    · exact kept y before
    · exact before
  · rcases List.mem_append.mp mem with old | last
    · exact h x old
    · obtain rfl : x = new := by simpa using last
      exact own

end ArchAtlas
