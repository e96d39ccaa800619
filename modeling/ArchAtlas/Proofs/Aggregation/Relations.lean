import ArchAtlas.Aggregation
import ArchAtlas.Proofs.Table
import Mathlib.Algebra.BigOperators.Group.List.Lemmas
import Mathlib.Algebra.GroupWithZero.Nat

/-!
What the relations between packages say about those of the document. One pass over the document keeps
a list of folded relations and the place of each key in it; `Folds` is what that list and the relations
passed so far have in common.

* `crossing?` is the triple of packages and type that a relation counts for, if it counts at all;
* `foldRelation_items`: what is changed at the place of a key is what has the key;
* `Folds.next`: one more relation keeps `Folds`; `folds_packageRelations`: so does the whole pass;
* `Folds.sum_under`: counting by triple loses and repeats nothing.
-/

namespace ArchAtlas.Aggregation

/-- A relation joins two packages and has a type. -/
def Joins (a : Config.Aggregation) (d : Document) (source target : String) (type : RelationType)
    (r : Relation) : Prop :=
  owner? a d r.source = some source ∧ owner? a d r.target = some target ∧ r.type = type

instance (a : Config.Aggregation) (d : Document) (source target : String) (type : RelationType) :
    DecidablePred (Joins a d source target type) :=
  fun _ => inferInstanceAs (Decidable (_ ∧ _))

/-- The key under which a relation is folded: its packages and type, if it joins two different ones. -/
def crossing? (a : Config.Aggregation) (d : Document) (r : Relation) :
    Option (String × String × RelationType) :=
  match owner? a d r.source, owner? a d r.target with
  | some source, some target => if source = target then none else some (source, target, r.type)
  | _, _ => none

theorem crossing?_eq_some {a : Config.Aggregation} {d : Document} {r : Relation}
    {source target : String} {type : RelationType} :
    crossing? a d r = some (source, target, type) ↔
      source ≠ target ∧ Joins a d source target type r := by
  unfold crossing? Joins
  cases owner? a d r.source with
  | none => simp
  | some s =>
    cases owner? a d r.target with
    | none => simp
    | some t =>
      by_cases same : s = t
      · subst same
        simp only [if_true, Option.some.injEq]
        constructor
        · simp
        · rintro ⟨apart, rfl, rfl, -⟩
          exact absurd rfl apart
      · simp only [same, if_false, Option.some.injEq, Prod.mk.injEq]
        constructor
        · rintro ⟨rfl, rfl, rfl⟩
          exact ⟨same, rfl, rfl, rfl⟩
        · rintro ⟨-, rfl, rfl, rfl⟩
          exact ⟨rfl, rfl, rfl⟩

theorem lift?_eq_none {a : Config.Aggregation} {d : Document} {r : Relation}
    (h : crossing? a d r = none) : lift? a d r = none := by
  unfold crossing? at h
  unfold lift?
  split at h <;> simp_all

/-- A relation is folded under its key, with strength one and with its own origin. -/
theorem lift?_eq_some {a : Config.Aggregation} {d : Document} {r : Relation}
    {k : String × String × RelationType} (h : crossing? a d r = some k) :
    ∃ l, lift? a d r = some l ∧ l.key = k ∧ l.strength = some 1 ∧
      l.inferenceSource = r.inferenceSource := by
  revert h
  unfold crossing? lift?
  cases owner? a d r.source with
  | none => intro h; cases h
  | some s =>
    cases owner? a d r.target with
    | none => intro h; cases h
    | some t =>
      by_cases same : s = t
      · simp only [if_pos same]
        intro h
        cases h
      · simp only [if_neg same]
        intro h
        cases h
        exact ⟨_, rfl, rfl, rfl, rfl⟩

/-! ## Places of keys -/

/-- A change of what has a key changes no key. -/
theorem map_key_absorb (folded : List Relation) (r : Relation) :
    (folded.map fun f => if f.key = r.key then absorb f r else f).map Relation.key =
      folded.map Relation.key := by
  rw [List.map_map]
  apply List.map_congr_left
  intro f _
  dsimp only [Function.comp]
  split <;> rfl

/-- A relation is folded into the one that has its key, or put behind the others, and each key keeps
its place. -/
theorem foldRelation_items {folded : Roster (String × String × RelationType) Relation}
    (h : folded.places.Places (folded.items.map Relation.key)) (r : Relation) :
    (foldRelation folded r).places.Places ((foldRelation folded r).items.map Relation.key) ∧
    (foldRelation folded r).items =
      if r.key ∈ folded.items.map Relation.key then
        folded.items.map fun f => if f.key = r.key then absorb f r else f
      else folded.items ++ [r] := by
  unfold foldRelation
  rcases Roster.put_cases h r.key r (fun f => absorb f r) with ⟨i, known, place, put⟩ | ⟨new, put⟩
  · have changed := h.modify place id fun f => absorb f r
    rw [List.map_id] at changed
    rw [put, if_pos known, changed]
    exact ⟨(map_key_absorb folded.items r).symm ▸ h, rfl⟩
  · have places := h.push new
    rw [List.length_map] at places
    rw [put, if_neg new]
    refine ⟨?_, rfl⟩
    rwa [List.map_append, List.map_singleton]

/-! ## One pass over the relations of a document -/

section

variable (a : Config.Aggregation) (d : Document)

/-- The relations that are folded under a key, in order. -/
def under (k : String × String × RelationType) (rs : List Relation) : List Relation :=
  rs.filter fun r => crossing? a d r = some k

/-- The place of the first relation that is folded under a key. -/
def firstPlace (k : String × String × RelationType) (rs : List Relation) : Nat :=
  rs.findIdx fun r => crossing? a d r = some k

end

/-- Where a relation folded from some comes from: the source text if one of them does, and else from
where the first of them does. -/
def origin (rs : List Relation) : Option InferenceSource :=
  if rs.any fun r => r.inferenceSource = .explicit then some .explicit
  else rs.head?.map Relation.inferenceSource

theorem origin_append {rs : List Relation} {r : Relation} (some : rs ≠ []) :
    origin (rs ++ [r]) = if r.inferenceSource = .explicit then .some .explicit else origin rs := by
  obtain ⟨first, rest, rfl⟩ := List.exists_cons_of_ne_nil some
  by_cases explicit : r.inferenceSource = .explicit <;> simp [origin, explicit]

/-- What the folded relations have in common with the relations `seen` so far. -/
structure Folds (a : Config.Aggregation) (d : Document) (seen folded : List Relation) : Prop where
  key_iff : ∀ k, k ∈ folded.map Relation.key ↔ ∃ r ∈ seen, crossing? a d r = some k
  ordered : folded.Pairwise fun f g => firstPlace a d f.key seen < firstPlace a d g.key seen
  strength : ∀ f ∈ folded, f.strength = some (UInt32.ofNat (under a d f.key seen).length)
  origin : ∀ f ∈ folded, origin (under a d f.key seen) = some f.inferenceSource

section

variable {a : Config.Aggregation} {d : Document} {seen folded : List Relation}
variable {r : Relation} {k : String × String × RelationType}

theorem under_append_same (h : crossing? a d r = some k) :
    under a d k (seen ++ [r]) = under a d k seen ++ [r] := by
  simp [under, h]

theorem under_append_other (h : crossing? a d r ≠ some k) :
    under a d k (seen ++ [r]) = under a d k seen := by
  simp [under, h]

theorem firstPlace_append_of_exists (h : ∃ x ∈ seen, crossing? a d x = some k) :
    firstPlace a d k (seen ++ [r]) = firstPlace a d k seen := by
  obtain ⟨x, mem, hx⟩ := h
  have bound : firstPlace a d k seen < seen.length :=
    List.findIdx_lt_length_of_exists ⟨x, mem, by simpa using hx⟩
  simp only [firstPlace] at bound ⊢
  rw [List.findIdx_append, if_pos bound]

theorem firstPlace_append_of_new (h : ¬ ∃ x ∈ seen, crossing? a d x = some k)
    (hr : crossing? a d r = some k) : firstPlace a d k (seen ++ [r]) = seen.length := by
  have none : seen.findIdx (fun x => decide (crossing? a d x = some k)) = seen.length :=
    List.findIdx_eq_length_of_false fun x mem => by
      simp only [decide_eq_false_iff_not]
      exact fun hx => h ⟨x, mem, hx⟩
  simp [firstPlace, List.findIdx_append, none, List.findIdx_cons, hr]

theorem under_ne_nil (h : ∃ x ∈ seen, crossing? a d x = some k) : under a d k seen ≠ [] := by
  obtain ⟨x, mem, hx⟩ := h
  exact List.ne_nil_of_mem (List.mem_filter.mpr ⟨mem, by simpa using hx⟩)

theorem Folds.exists_of_mem (h : Folds a d seen folded) {f : Relation} (mem : f ∈ folded) :
    ∃ x ∈ seen, crossing? a d x = some f.key :=
  (h.key_iff f.key).mp (List.mem_map_of_mem mem)

theorem Folds.ordered_append (h : Folds a d seen folded) :
    folded.Pairwise fun f g =>
      firstPlace a d f.key (seen ++ [r]) < firstPlace a d g.key (seen ++ [r]) := by
  apply h.ordered.imp_of_mem
  intro f g hf hg lt
  rwa [firstPlace_append_of_exists (h.exists_of_mem hf),
    firstPlace_append_of_exists (h.exists_of_mem hg)]

/-- A relation that joins no two packages is passed over. -/
theorem Folds.skip (h : Folds a d seen folded) (hr : crossing? a d r = none) :
    Folds a d (seen ++ [r]) folded where
  key_iff k := by simp [h.key_iff k, hr]
  ordered := h.ordered_append
  strength f mem := by rw [under_append_other (by simp [hr])]; exact h.strength f mem
  origin f mem := by rw [under_append_other (by simp [hr])]; exact h.origin f mem

/-- A relation whose key is new is put behind the others. -/
theorem Folds.put (h : Folds a d seen folded) (hr : crossing? a d r = some k)
    (new : ¬ ∃ x ∈ seen, crossing? a d x = some k) {l : Relation} (key : l.key = k)
    (one : l.strength = some 1) (same : l.inferenceSource = r.inferenceSource) :
    Folds a d (seen ++ [r]) (folded ++ [l]) := by
  have none : under a d k seen = [] := by
    apply List.filter_eq_nil_iff.mpr
    intro x mem hx
    exact new ⟨x, mem, by simpa using hx⟩
  have other : ∀ f ∈ folded, crossing? a d r ≠ some f.key := by
    intro f mem hf
    obtain rfl : k = f.key := by simpa [hr] using hf
    exact new (h.exists_of_mem mem)
  refine ⟨?_, ?_, ?_, ?_⟩
  · intro k'
    rw [List.map_append, List.mem_append, h.key_iff k']
    simp [key, hr, or_and_right, exists_or, eq_comm]
  · refine List.pairwise_append.mpr ⟨h.ordered_append, List.pairwise_singleton _ _, ?_⟩
    rintro f hf g hg
    obtain rfl : g = l := by simpa using hg
    rw [key, firstPlace_append_of_new new hr, firstPlace_append_of_exists (h.exists_of_mem hf)]
    obtain ⟨x, mem, hx⟩ := h.exists_of_mem hf
    exact List.findIdx_lt_length_of_exists ⟨x, mem, by simpa using hx⟩
  · intro f mem
    rcases List.mem_append.mp mem with mem | mem
    · rw [under_append_other (other f mem)]
      exact h.strength f mem
    · obtain rfl : f = l := by simpa using mem
      rw [key, under_append_same hr, none, one]
      rfl
  · intro f mem
    rcases List.mem_append.mp mem with mem | mem
    · rw [under_append_other (other f mem)]
      exact h.origin f mem
    · obtain rfl : f = l := by simpa using mem
      rw [key, under_append_same hr, none, same]
      by_cases explicit : r.inferenceSource = .explicit <;> simp [Aggregation.origin, explicit]

/-- A relation whose key is known is folded into the one that has it. -/
theorem Folds.fold (h : Folds a d seen folded) (hr : crossing? a d r = some k)
    (known : ∃ x ∈ seen, crossing? a d x = some k) {l : Relation} (key : l.key = k)
    (same : l.inferenceSource = r.inferenceSource) :
    Folds a d (seen ++ [r]) (folded.map fun f => if f.key = l.key then absorb f l else f) := by
  have keyed : ∀ f : Relation, (if f.key = l.key then absorb f l else f).key = f.key := by
    intro f
    split <;> rfl
  refine ⟨?_, ?_, ?_, ?_⟩
  · intro k'
    rw [map_key_absorb, h.key_iff k']
    constructor
    · rintro ⟨x, mem, hx⟩
      exact ⟨x, List.mem_append_left _ mem, hx⟩
    · rintro ⟨x, mem, hx⟩
      rcases List.mem_append.mp mem with mem | mem
      · exact ⟨x, mem, hx⟩
      · obtain rfl : x = r := by simpa using mem
        obtain rfl : k = k' := by simpa [hr] using hx
        exact known
  · rw [List.pairwise_map]
    simpa only [keyed] using h.ordered_append
  · intro g mem
    obtain ⟨f, hf, rfl⟩ := List.mem_map.mp mem
    rw [keyed]
    split
    · rename_i hit
      rw [hit, key, under_append_same hr, List.length_append, absorb]
      simp only [h.strength f hf, hit, key, Option.getD_some, List.length_singleton,
        UInt32.ofNat_add]
      rfl
    · rename_i miss
      rw [under_append_other (by rw [hr, ← key]; simpa using Ne.symm miss)]
      exact h.strength f hf
  · intro g mem
    obtain ⟨f, hf, rfl⟩ := List.mem_map.mp mem
    rw [keyed]
    split
    · rename_i hit
      have before := h.origin f hf
      rw [hit, key] at before
      rw [hit, key, under_append_same hr, origin_append (under_ne_nil known), before, absorb]
      by_cases explicit : r.inferenceSource = .explicit <;> simp [same, explicit]
    · rename_i miss
      rw [under_append_other (by rw [hr, ← key]; simpa using Ne.symm miss)]
      exact h.origin f hf

/-- One more relation of the document keeps the folded relations true to those seen. -/
theorem Folds.next {folded : Roster (String × String × RelationType) Relation}
    (h : Folds a d seen folded.items) (placed : folded.places.Places (folded.items.map Relation.key))
    (r : Relation) :
    let next := [r].filterMap (lift? a d) |>.foldl foldRelation folded
    Folds a d (seen ++ [r]) next.items ∧ next.places.Places (next.items.map Relation.key) := by
  cases hr : crossing? a d r with
  | none => simpa [lift?_eq_none hr] using ⟨h.skip hr, placed⟩
  | some k =>
    obtain ⟨l, lifted, key, one, same⟩ := lift?_eq_some hr
    obtain ⟨places, items⟩ := foldRelation_items placed l
    simp only [List.filterMap_cons, lifted, List.filterMap_nil, List.foldl_cons, List.foldl_nil]
    refine ⟨?_, places⟩
    rw [items]
    split
    · rename_i found
      exact h.fold hr ((h.key_iff k).mp (key ▸ found)) key same
    · rename_i absent
      exact h.put hr (fun known => absent (key ▸ (h.key_iff k).mpr known)) key one same

end

theorem folds_packageRelations (a : Config.Aggregation) (d : Document) :
    Folds a d d.relations (packageRelations a d) := by
  unfold packageRelations
  suffices run : ∀ seen : List Relation,
      let folded := (seen.filterMap (lift? a d)).foldl foldRelation .empty
      Folds a d seen folded.items ∧ folded.places.Places (folded.items.map Relation.key) from
    (run d.relations).1
  intro seen
  induction seen using List.reverseRecOn with
  | nil => exact ⟨⟨by simp [Roster.empty], by simp [Roster.empty], by simp [Roster.empty],
      by simp [Roster.empty]⟩, .empty⟩
  | append_singleton seen r ih =>
    rw [List.filterMap_append, List.foldl_append]
    exact ih.1.next ih.2 r

/-! ## What the pass comes to -/

/-- The two ends of a relation are known and lie in different packages. -/
def Crosses (a : Config.Aggregation) (d : Document) (r : Relation) : Prop :=
  ∃ source target, owner? a d r.source = some source ∧ owner? a d r.target = some target ∧
    source ≠ target

theorem crossing?_isSome {a : Config.Aggregation} {d : Document} {r : Relation} :
    (crossing? a d r).isSome = true ↔ Crosses a d r := by
  rw [Option.isSome_iff_exists]
  constructor
  · rintro ⟨⟨source, target, type⟩, h⟩
    obtain ⟨apart, from', to', -⟩ := crossing?_eq_some.mp h
    exact ⟨source, target, from', to', apart⟩
  · rintro ⟨source, target, from', to', apart⟩
    exact ⟨(source, target, r.type), crossing?_eq_some.mpr ⟨apart, from', to', rfl⟩⟩

instance (a : Config.Aggregation) (d : Document) : DecidablePred (Crosses a d) :=
  fun _ => decidable_of_iff _ crossing?_isSome

section

variable {a : Config.Aggregation} {d : Document} {seen folded : List Relation}

theorem Folds.keys_nodup (h : Folds a d seen folded) : (folded.map Relation.key).Nodup := by
  rw [List.Nodup, List.pairwise_map]
  apply h.ordered.imp
  intro f g lt same
  rw [same] at lt
  exact Nat.lt_irrefl _ lt

theorem Folds.apart (h : Folds a d seen folded) {f : Relation} (mem : f ∈ folded) :
    f.source ≠ f.target := by
  obtain ⟨r, -, hr⟩ := h.exists_of_mem mem
  exact (crossing?_eq_some.mp hr).1

/-- Folded under a key are the relations that join its packages and have its type. -/
theorem crossing?_eq_key {f r : Relation} (apart : f.source ≠ f.target) :
    crossing? a d r = some f.key ↔ Joins a d f.source f.target f.type r := by
  rw [Relation.key, crossing?_eq_some]
  exact and_iff_right apart

theorem length_under (k : String × String × RelationType) (rs : List Relation) :
    (under a d k rs).length = (rs.filterMap (crossing? a d)).countP (· = k) := by
  rw [under, ← List.countP_eq_length_filter, List.countP_filterMap]
  apply List.countP_congr
  intro r _
  cases crossing? a d r <;> simp

/-- Added up over the folded relations, the relations folded under each are all that cross. -/
theorem Folds.sum_under (h : Folds a d seen folded) :
    (folded.map fun f => (under a d f.key seen).length).sum = seen.countP (Crosses a d) := by
  have perm : (folded.map Relation.key).Perm (seen.filterMap (crossing? a d)).dedup := by
    rw [List.perm_ext_iff_of_nodup h.keys_nodup (List.nodup_dedup _)]
    intro k
    rw [h.key_iff, List.mem_dedup, List.mem_filterMap]
  calc (folded.map fun f => (under a d f.key seen).length).sum
    _ = ((folded.map Relation.key).map fun k =>
        (seen.filterMap (crossing? a d)).countP (· = k)).sum := by
      simp only [length_under, List.map_map, Function.comp_def]
    _ = ((seen.filterMap (crossing? a d)).dedup.map fun k =>
          (seen.filterMap (crossing? a d)).countP (· = k)).sum := (perm.map _).sum_eq
    _ = (seen.filterMap (crossing? a d)).length := List.sum_map_count_dedup_eq_length _
    _ = seen.countP (Crosses a d) := by
      rw [List.length_filterMap_eq_countP]
      exact List.countP_congr fun r _ => by simp [crossing?_isSome]

end

/-- The relations at package level: one for each pair of different packages and type that relations of
the document join, in the order of the first of them. It counts them, and it is explicit if one of them
is; otherwise it comes from where the first of them does. -/
theorem package_relations_fold (a : Config.Aggregation) (d : Document)
    (few : d.relations.length < 2 ^ 32) :
    let folded := (aggregate a d .package).relations
    (∀ source target type, (∃ f ∈ folded, f.key = (source, target, type)) ↔
      source ≠ target ∧ ∃ r ∈ d.relations, Joins a d source target type r) ∧
    (folded.map Relation.key).Nodup ∧
    (∀ f ∈ folded, f.source ≠ f.target) ∧
    (∀ f ∈ folded, f.strength.map UInt32.toNat =
      some (d.relations.countP (Joins a d f.source f.target f.type))) ∧
    (∀ f ∈ folded, some f.inferenceSource =
      origin (d.relations.filter (Joins a d f.source f.target f.type))) ∧
    folded.Pairwise (fun f g => d.relations.findIdx (Joins a d f.source f.target f.type) <
      d.relations.findIdx (Joins a d g.source g.target g.type)) ∧
    (folded.map fun f => (f.strength.getD 0).toNat).sum = d.relations.countP (Crosses a d) := by
  intro folded
  have h : Folds a d d.relations folded := folds_packageRelations a d
  have joined : ∀ f ∈ folded, under a d f.key d.relations =
      d.relations.filter (Joins a d f.source f.target f.type) := by
    intro f mem
    apply List.filter_congr
    intro r _
    simp only [crossing?_eq_key (h.apart mem)]
  have counted : ∀ f ∈ folded,
      f.strength.map UInt32.toNat = some (under a d f.key d.relations).length := by
    intro f mem
    have bound : (under a d f.key d.relations).length < 2 ^ 32 :=
      Nat.lt_of_le_of_lt (List.length_filter_le _ _) few
    rw [h.strength f mem, Option.map_some, UInt32.toNat_ofNat_of_lt' bound]
  refine ⟨?_, h.keys_nodup, fun f => h.apart, ?_, ?_, ?_, ?_⟩
  · intro source target type
    have keyed := h.key_iff (source, target, type)
    simp only [List.mem_map, crossing?_eq_some] at keyed
    rw [keyed]
    constructor
    · rintro ⟨r, mem, apart, joins⟩
      exact ⟨apart, r, mem, joins⟩
    · rintro ⟨apart, r, mem, joins⟩
      exact ⟨r, mem, apart, joins⟩
  · intro f mem
    rw [counted f mem, joined f mem, List.countP_eq_length_filter]
  · intro f mem
    rw [← joined f mem, h.origin f mem]
  · apply h.ordered.imp_of_mem
    intro f g hf hg lt
    simpa only [firstPlace, crossing?_eq_key (h.apart hf), crossing?_eq_key (h.apart hg)] using lt
  · rw [← h.sum_under]
    congr 1
    apply List.map_congr_left
    intro f mem
    have := counted f mem
    cases strength : f.strength with
    | none => simp [strength] at this
    | some n => simpa [strength] using this

/-- Two packages with two dependencies from the first to the second, one of which is inferred, and one
within the second. -/
def twoPackages : Document where
  version := Document.currentVersion
  language := .go
  timestamp := ""
  sourceFiles := []
  entities := ["a.X", "b.Y", "b.Z"].map fun id => ⟨id, id, .struct, .exposed, [], ⟨"", 1, 1⟩⟩
  relations := [(Relation.explicit "1" .dependency "a.X" "b.Y").withInference .inferred 1,
    Relation.explicit "2" .dependency "a.X" "b.Z", Relation.explicit "3" .dependency "b.Y" "b.Z"]
  metrics := none
  extensions := none

theorem package_relations_fold_twoPackages :
    twoPackages.relations.length < 2 ^ 32 ∧
    (∃ f ∈ (aggregate .default twoPackages .package).relations, f.key = ("a", "b", .dependency)) ∧
    ((aggregate .default twoPackages .package).relations.map fun f =>
      (f.strength.getD 0).toNat).sum = 2 := by
  have few : twoPackages.relations.length < 2 ^ 32 := by decide
  obtain ⟨keys, -, -, -, -, -, sum⟩ := package_relations_fold .default twoPackages few
  refine ⟨few, (keys _ _ _).mpr ⟨by decide, ?_⟩, sum.trans ?_⟩
  · decide
  · decide

end ArchAtlas.Aggregation
