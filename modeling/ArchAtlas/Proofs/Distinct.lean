import ArchAtlas.Distinct
import Mathlib.Algebra.GroupWithZero.Nat
import Mathlib.Algebra.Order.BigOperators.Group.Finset
import Mathlib.Data.List.Induction
import Mathlib.Data.List.Nodup

namespace ArchAtlas

section

variable {α β κ : Type} [BEq α] [LawfulBEq α] [BEq κ] [LawfulBEq κ]

theorem eraseDups_append_singleton (keys : List κ) (k : κ) :
    (keys ++ [k]).eraseDups = if k ∈ keys then keys.eraseDups else keys.eraseDups ++ [k] := by
  rw [List.eraseDups_append]
  by_cases old : k ∈ keys <;> simp [List.removeAll, old, List.eraseDups_cons]

theorem nodup_eraseDups (keys : List κ) : keys.eraseDups.Nodup := by
  induction keys using List.reverseRecOn with
  | nil => simp
  | append_singleton keys k ih =>
    rw [eraseDups_append_singleton]
    split
    · exact ih
    · rename_i new
      refine List.nodup_append.mpr ⟨ih, by simp, ?_⟩
      rintro x mem y hy rfl
      obtain rfl : x = k := by simpa using hy
      exact new (List.mem_eraseDups.mp mem)

/-- Repetitions that are left out anyway may be left out before. -/
theorem eraseDups_map_eraseDups (f : α → κ) (items : List α) :
    (items.eraseDups.map f).eraseDups = (items.map f).eraseDups := by
  induction items using List.reverseRecOn with
  | nil => rfl
  | append_singleton items x ih =>
    rw [eraseDups_append_singleton, List.map_append, List.map_singleton, eraseDups_append_singleton]
    split
    · rename_i old
      rw [if_pos (List.mem_map_of_mem old), ih]
    · have same : f x ∈ items.eraseDups.map f ↔ f x ∈ items.map f := by
        simp only [List.mem_map, List.mem_eraseDups]
      rw [List.map_append, List.map_singleton, eraseDups_append_singleton, ih]
      simp only [same]

theorem map_eraseDups_of_injOn {f : α → κ} {items : List α}
    (inj : ∀ x ∈ items, ∀ y ∈ items, f x = f y → x = y) :
    items.eraseDups.map f = (items.map f).eraseDups := by
  induction items using List.reverseRecOn with
  | nil => rfl
  | append_singleton items x ih =>
    have before := ih fun y hy z hz => inj y (by simp [hy]) z (by simp [hz])
    rw [eraseDups_append_singleton, List.map_append, List.map_singleton, eraseDups_append_singleton,
      ← before]
    have known : f x ∈ items.map f ↔ x ∈ items := by
      constructor
      · intro mem
        obtain ⟨y, hy, same⟩ := List.mem_map.mp mem
        rwa [← inj y (by simp [hy]) x (by simp) same]
      · exact List.mem_map_of_mem
    simp only [known]
    split
    · rfl
    · rw [List.map_append, List.map_singleton]

end

section Groups

variable {α γ κ : Type} {groups : List γ} {parts : γ → List α} {label : γ → κ} (tag : α → κ)

/-- What carries the label of one of several groups is the part of that group. -/
theorem filter_flatMap_of_label [DecidableEq κ] (nodup : (groups.map label).Nodup)
    (tagged : ∀ g ∈ groups, ∀ x ∈ parts g, tag x = label g) {g : γ} (mem : g ∈ groups) :
    (groups.flatMap parts).filter (fun x => tag x = label g) = parts g := by
  induction groups with
  | nil => cases mem
  | cons first rest ih =>
    rw [List.map_cons, List.nodup_cons] at nodup
    obtain ⟨new, nodup⟩ := nodup
    rw [List.forall_mem_cons] at tagged
    rw [List.flatMap_cons, List.filter_append]
    rcases List.mem_cons.mp mem with rfl | mem
    · have here : (parts g).filter (fun x => tag x = label g) = parts g :=
        List.filter_eq_self.mpr fun x hx => by simpa using tagged.1 x hx
      have later : (rest.flatMap parts).filter (fun x => tag x = label g) = [] := by
        refine List.filter_eq_nil_iff.mpr fun x hx same => new ?_
        obtain ⟨other, inside, hx⟩ := List.mem_flatMap.mp hx
        rw [← of_decide_eq_true same, tagged.2 other inside x hx]
        exact List.mem_map_of_mem inside
      rw [here, later, List.append_nil]
    · have here : (parts first).filter (fun x => tag x = label g) = [] := by
        refine List.filter_eq_nil_iff.mpr fun x hx same => new ?_
        rw [← tagged.1 x hx, of_decide_eq_true same]
        exact List.mem_map_of_mem mem
      rw [here, List.nil_append, ih nodup tagged.2 mem]

/-- Between groups with different labels there are no repetitions. -/
theorem eraseDups_flatMap_of_label [BEq α] [LawfulBEq α] (nodup : (groups.map label).Nodup)
    (tagged : ∀ g ∈ groups, ∀ x ∈ parts g, tag x = label g) :
    (groups.flatMap parts).eraseDups = groups.flatMap fun g => (parts g).eraseDups := by
  induction groups with
  | nil => rfl
  | cons first rest ih =>
    rw [List.map_cons, List.nodup_cons] at nodup
    obtain ⟨new, nodup⟩ := nodup
    rw [List.forall_mem_cons] at tagged
    have apart : (rest.flatMap parts).removeAll (parts first) = rest.flatMap parts := by
      refine List.filter_eq_self.mpr fun x hx => ?_
      obtain ⟨other, inside, hx⟩ := List.mem_flatMap.mp hx
      have absent : x ∉ parts first := by
        intro mem
        refine new (List.mem_map.mpr ⟨other, inside, ?_⟩)
        rw [← tagged.2 other inside x hx, tagged.1 x mem]
      simpa using absent
    rw [List.flatMap_cons, List.flatMap_cons, List.eraseDups_append, apart, ih nodup tagged.2]

end Groups

section

variable {β κ : Type} [BEq κ] [LawfulBEq κ]

/-- Values that are kept once come in the order of the items that first have them. -/
theorem eraseDups_filterMap_ordered [DecidableEq κ] (f : β → Option κ) (items : List β) :
    (items.filterMap f).eraseDups.Pairwise fun a b =>
      items.findIdx (fun x => f x = some a) < items.findIdx (fun x => f x = some b) := by
  induction items using List.reverseRecOn with
  | nil => simp
  | append_singleton items x ih =>
    have found : ∀ k ∈ items.filterMap f,
        items.findIdx (fun x => f x = some k) < items.length := by
      intro k mem
      obtain ⟨y, hy, value⟩ := List.mem_filterMap.mp mem
      exact List.findIdx_lt_length_of_exists ⟨y, hy, by simpa using value⟩
    have earlier : (items.filterMap f).eraseDups.Pairwise fun a b =>
        (items ++ [x]).findIdx (fun x => f x = some a) <
          (items ++ [x]).findIdx (fun x => f x = some b) := by
      apply ih.imp_of_mem
      intro a b ha hb less
      rwa [List.findIdx_append, List.findIdx_append, if_pos (found a (List.mem_eraseDups.mp ha)),
        if_pos (found b (List.mem_eraseDups.mp hb))]
    rw [List.filterMap_append]
    cases value : f x with
    | none => simpa [value] using earlier
    | some k =>
      simp only [List.filterMap_cons, value, List.filterMap_nil, eraseDups_append_singleton]
      split
      · exact earlier
      · rename_i new
        refine List.pairwise_append.mpr ⟨earlier, List.pairwise_singleton _ _, ?_⟩
        rintro a ha b hb
        obtain rfl : b = k := by simpa using hb
        have absent : items.findIdx (fun x => f x = some b) = items.length := by
          apply List.findIdx_eq_length_of_false
          intro y hy
          simpa using fun same : f y = some b => new (List.mem_filterMap.mpr ⟨y, hy, same⟩)
        have place := found a (List.mem_eraseDups.mp ha)
        rw [List.findIdx_append, List.findIdx_append, if_pos place, absent, if_neg (by omega)]
        omega

end

variable {α κ : Type} [DecidableEq κ]

theorem firstBy_append_singleton (key : α → κ) (items : List α) (x : α) :
    firstBy key (items ++ [x]) =
      if key x ∈ (firstBy key items).map key then firstBy key items
      else firstBy key items ++ [x] := by
  simp only [firstBy, List.foldl_append, List.foldl_cons, List.foldl_nil, List.mem_map,
    List.mem_reverse, List.any_eq_true, decide_eq_true_eq]
  split <;> simp

theorem map_firstBy (key : α → κ) (items : List α) :
    (firstBy key items).map key = (items.map key).eraseDups := by
  induction items using List.reverseRecOn with
  | nil => rfl
  | append_singleton items x ih =>
    rw [firstBy_append_singleton, List.map_append, List.map_singleton, eraseDups_append_singleton]
    simp only [ih, List.mem_eraseDups]
    split
    · exact ih
    · rw [List.map_append, ih, List.map_singleton]

theorem nodup_firstBy (key : α → κ) (items : List α) : ((firstBy key items).map key).Nodup := by
  rw [map_firstBy]
  exact nodup_eraseDups _

/-- An item that is kept is the first with its key. -/
theorem find?_of_mem_firstBy {key : α → κ} {items : List α} {x : α} (h : x ∈ firstBy key items) :
    (items.find? fun y => key y = key x) = some x := by
  induction items using List.reverseRecOn with
  | nil => cases h
  | append_singleton items y ih =>
    rw [firstBy_append_singleton] at h
    rw [List.find?_append]
    split at h
    · rw [ih h]
      rfl
    · rename_i new
      rcases List.mem_append.mp h with old | last
      · rw [ih old]
        rfl
      · obtain rfl : x = y := by simpa using last
        have absent : (items.find? fun y => key y = key x) = none := by
          rw [map_firstBy, List.mem_eraseDups] at new
          simpa using new
        rw [absent]
        simp

/-- A choice by key may be made before or after. -/
theorem filter_firstBy {key : α → κ} {keep : α → Bool} {items : List α}
    (byKey : ∀ x y, key x = key y → keep x = keep y) :
    (firstBy key items).filter keep = firstBy key (items.filter keep) := by
  induction items using List.reverseRecOn with
  | nil => rfl
  | append_singleton items x ih =>
    rw [firstBy_append_singleton, List.filter_append]
    cases kept : keep x with
    | false =>
      have last : [x].filter keep = [] := by simp [kept]
      rw [last, List.append_nil]
      split
      · exact ih
      · rw [List.filter_append, last, List.append_nil, ih]
    | true =>
      have last : [x].filter keep = [x] := by simp [kept]
      have known : key x ∈ (firstBy key items).map key ↔
          key x ∈ (firstBy key (items.filter keep)).map key := by
        simp only [map_firstBy, List.mem_eraseDups, List.mem_map, List.mem_filter]
        constructor
        · rintro ⟨y, mem, same⟩
          exact ⟨y, ⟨mem, byKey y x same ▸ kept⟩, same⟩
        · rintro ⟨y, ⟨mem, -⟩, same⟩
          exact ⟨y, mem, same⟩
      rw [last, firstBy_append_singleton]
      simp only [known]
      split
      · exact ih
      · rw [List.filter_append, last, ih]

/-- What is left out may be left out before repetitions are. -/
theorem filter_eraseDups (keep : κ → Bool) (keys : List κ) :
    keys.eraseDups.filter keep = (keys.filter keep).eraseDups := by
  have once : ∀ ks : List κ, firstBy id ks = ks.eraseDups := by
    intro ks
    simpa using map_firstBy id ks
  rw [← once, ← once]
  exact filter_firstBy fun _ _ same => congrArg keep same

/-- The key of a part of an item may be taken of the parts alone. -/
theorem firstBy_map {β : Type} (key : β → κ) (part : α → β) (items : List α) :
    (firstBy (fun x => key (part x)) items).map part = firstBy key (items.map part) := by
  induction items using List.reverseRecOn with
  | nil => rfl
  | append_singleton items x ih =>
    rw [List.map_append, List.map_singleton, firstBy_append_singleton, firstBy_append_singleton, ← ih,
      List.map_map]
    split
    · rename_i old
      rw [if_pos (by simpa using old)]
    · rename_i new
      rw [if_neg (by simpa using new), List.map_append, List.map_singleton]

theorem mem_of_mem_firstBy {key : α → κ} {items : List α} {x : α} (h : x ∈ firstBy key items) :
    x ∈ items :=
  List.mem_of_find?_eq_some (find?_of_mem_firstBy h)

/-- What is the same of two items exactly when their keys are is kept once, in order, like the keys. -/
theorem map_firstBy_of_told {β : Type} [BEq β] [LawfulBEq β] {key : α → κ} {f : α → β} {items : List α}
    (told : ∀ x ∈ items, ∀ y ∈ items, f x = f y ↔ key x = key y) :
    (firstBy key items).map f = (items.map f).eraseDups := by
  induction items using List.reverseRecOn with
  | nil => rfl
  | append_singleton items x ih =>
    have before := ih fun y hy z hz => told y (by simp [hy]) z (by simp [hz])
    have known : key x ∈ (firstBy key items).map key ↔ f x ∈ items.map f := by
      simp only [map_firstBy, List.mem_eraseDups, List.mem_map]
      apply exists_congr
      intro y
      apply and_congr_right
      intro hy
      exact (told y (by simp [hy]) x (by simp)).symm
    rw [firstBy_append_singleton, List.map_append, List.map_singleton, eraseDups_append_singleton,
      ← before]
    simp only [known]
    split
    · rfl
    · rw [List.map_append, List.map_singleton]

theorem firstBy_of_nodup {key : α → κ} {items : List α} (nodup : (items.map key).Nodup) :
    firstBy key items = items := by
  induction items using List.reverseRecOn with
  | nil => rfl
  | append_singleton items x ih =>
    rw [List.map_append, List.nodup_append] at nodup
    obtain ⟨before, -, new⟩ := nodup
    rw [firstBy_append_singleton, ih before, if_neg]
    intro old
    exact new _ old (key x) (by simp) rfl

/-- Items that no two share a key of are found by it. -/
theorem find?_of_nodup {key : α → κ} {items : List α} (nodup : (items.map key).Nodup) {x : α}
    (mem : x ∈ items) : (items.find? fun y => key y = key x) = some x :=
  find?_of_mem_firstBy ((firstBy_of_nodup nodup).symm ▸ mem)

theorem length_eraseDups (keys : List κ) : keys.eraseDups.length = keys.toFinset.card := by
  rw [← List.toFinset_card_of_nodup (nodup_eraseDups keys)]
  congr 1
  ext k
  simp

/-- How many different values a list has depends only on which of them are equal. -/
theorem card_toFinset_map_congr {α β γ : Type} [DecidableEq β] [DecidableEq γ] {f : α → β} {g : α → γ}
    (same : ∀ a b, f a = f b ↔ g a = g b) (items : List α) :
    (items.map f).toFinset.card = (items.map g).toFinset.card := by
  induction items with
  | nil => rfl
  | cons a items ih =>
    have known : f a ∈ (items.map f).toFinset ↔ g a ∈ (items.map g).toFinset := by
      simp only [List.mem_toFinset, List.mem_map, same]
    rw [List.map_cons, List.map_cons, List.toFinset_cons, List.toFinset_cons,
      Finset.card_insert_eq_ite, Finset.card_insert_eq_ite, ih]
    simp only [known]

/-- The different values that items have, counted for each of their labels, are the different pairs of
label and value. -/
theorem sum_card_by_label {ε β : Type} [DecidableEq β] (label : ε → κ) (value : ε → β) {labels : List κ}
    {items : List ε} (nodup : labels.Nodup) (labelled : ∀ x ∈ items, label x ∈ labels) :
    (labels.map fun l => ((items.filter fun x => label x = l).map value).toFinset.card).sum =
      (items.map fun x => (label x, value x)).toFinset.card := by
  have maps : Set.MapsTo Prod.fst ((items.map fun x => (label x, value x)).toFinset : Set (κ × β))
      (labels.toFinset : Set κ) := by
    intro pair mem
    obtain ⟨x, hx, rfl⟩ : ∃ x ∈ items, (label x, value x) = pair := by simpa using mem
    simpa using labelled x hx
  rw [Finset.card_eq_sum_card_fiberwise maps, List.sum_toFinset _ nodup]
  refine congrArg List.sum (List.map_congr_left fun l _ => ?_)
  -- Within one label, pairs are told apart by their values.
  have values : ((items.filter fun x => label x = l).map value).toFinset =
      ((items.map fun x => (label x, value x)).toFinset.filter fun pair => pair.1 = l).image
        Prod.snd := by
    ext v
    simp only [List.mem_toFinset, List.mem_map, List.mem_filter, Finset.mem_image, Finset.mem_filter,
      decide_eq_true_eq]
    constructor
    · rintro ⟨x, ⟨hx, rfl⟩, rfl⟩
      exact ⟨(label x, value x), ⟨⟨x, hx, rfl⟩, rfl⟩, rfl⟩
    · rintro ⟨_, ⟨⟨x, hx, rfl⟩, here⟩, rfl⟩
      exact ⟨x, ⟨hx, here⟩, rfl⟩
  rw [values]
  apply Finset.card_image_of_injOn
  rintro ⟨l₁, v₁⟩ mem₁ ⟨l₂, v₂⟩ mem₂ same
  simp only [Finset.mem_coe, Finset.mem_filter] at mem₁ mem₂
  exact Prod.ext (mem₁.2.trans mem₂.2.symm) same

section

variable {ids : List κ} {x : κ} {i : Nat}

theorem getElem?_of_idxOf? (h : ids.idxOf? x = some i) : ids[i]? = some x := by
  obtain ⟨bound, here, -⟩ := List.idxOf?_eq_some_iff.mp h
  rw [List.getElem?_eq_getElem bound, here]

theorem idxOf?_of_getElem? (nodup : ids.Nodup) (h : ids[i]? = some x) : ids.idxOf? x = some i := by
  obtain ⟨bound, rfl⟩ := List.getElem?_eq_some_iff.mp h
  refine List.idxOf?_eq_some_iff.mpr ⟨bound, rfl, ?_⟩
  intro j lt same
  have := nodup.getElem_inj_iff.mp same
  omega

theorem pairwise_idxOf_of_nodup (nodup : ids.Nodup) :
    ids.Pairwise fun x y => ids.idxOf x < ids.idxOf y := by
  rw [List.pairwise_iff_getElem]
  intro i j hi hj less
  rwa [nodup.idxOf_getElem, nodup.idxOf_getElem]

end

end ArchAtlas
