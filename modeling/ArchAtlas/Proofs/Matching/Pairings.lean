import ArchAtlas.Matching.Run
import ArchAtlas.Proofs.Table
import Mathlib.Data.List.Forall2

/-!
The matches of a run by places. What the oracle named comes first and what method names give the other
structs comes behind it, under places of their own; once places are turned back and sorted, each struct
has its matches by one strategy, in order.

* `Pairing` is a match by places: a struct, an interface, and the strategy that joined them;
* `matchEach` says struct by struct what is found; `pairings` lists the same by places;
* `perm_pairings`: before they are sorted, the matches are these in another order;
* `combine_implementations`: so what is combined is what is found struct by struct.
-/

namespace ArchAtlas.Matching

/-- A struct and an interface by their places in the project, and the strategy that matched them. -/
structure Pairing where
  concrete : Nat
  interface : Nat
  strategy : Strategy
  deriving DecidableEq, Repr

namespace Pairing

def byHeuristic (places : Nat × Nat) : Pairing := ⟨places.1, places.2, .heuristic⟩

def Before (a b : Pairing) : Prop :=
  a.concrete < b.concrete ∨ a.concrete = b.concrete ∧ a.interface < b.interface

/-- Whether an implementation is that of the types at the two places, by the strategy. -/
def Realizes (confidence : Float) (structs interfaces : List TypeRef) (t : Pairing)
    (m : Implementation) : Prop :=
  ∃ s i, structs[t.concrete]? = some s ∧ interfaces[t.interface]? = some i ∧
    m = match t.strategy with
      | .heuristic => Implementation.byHeuristic s i
      | .oracle => Implementation.byOracle confidence s i

end Pairing

/-- Whether the oracle named struct `si` for interface `ii`. -/
def isNamed (named : List (Nat × Nat)) (si ii : Nat) : Bool :=
  named.contains (si, ii)

/-- The implementations of one struct: the oracle's, if it named the struct at all. -/
def matchStruct (confidence : Float) (named : List (Nat × Nat)) (interfaces : List TypeRef)
    (s : TypeRef) (si : Nat) : List Implementation :=
  let own := interfaces.zipIdx.filter fun (_, ii) => isNamed named si ii
  if own.isEmpty then (interfaces.filter (implements s)).map (Implementation.byHeuristic s)
  else own.map fun (i, _) => Implementation.byOracle confidence s i

/-- The implementations of all structs, one after the other. -/
def matchEach (confidence : Float) (named : List (Nat × Nat)) (structs interfaces : List TypeRef) :
    List Implementation :=
  structs.zipIdx.flatMap fun (s, si) => matchStruct confidence named interfaces s si

/-! ## Struct by struct -/

theorem zipIdx_pairwise_lt {α : Type} (items : List α) :
    items.zipIdx.Pairwise fun a b => a.2 < b.2 := by
  rw [← List.pairwise_map (f := Prod.snd) (R := (· < ·)), List.zipIdx_map_snd]
  exact List.pairwise_lt_range'

theorem map_fst_filter_zipIdx {α : Type} (keep : α → Bool) (items : List α) :
    (items.zipIdx.filter fun x => keep x.1).map Prod.fst = items.filter keep := by
  conv_rhs => rw [← List.zipIdx_map_fst 0 items, List.filter_map]
  rfl

def structPairings (named : List (Nat × Nat)) (interfaces : List TypeRef) (s : TypeRef)
    (si : Nat) : List Pairing :=
  let own := interfaces.zipIdx.filter fun (_, ii) => isNamed named si ii
  if own.isEmpty then
    (interfaces.zipIdx.filter fun (i, _) => implements s i).map fun (_, ii) => ⟨si, ii, .heuristic⟩
  else own.map fun (_, ii) => ⟨si, ii, .oracle⟩

def pairings (named : List (Nat × Nat)) (structs interfaces : List TypeRef) : List Pairing :=
  structs.zipIdx.flatMap fun (s, si) => structPairings named interfaces s si

def Unnamed (named : List (Nat × Nat)) (interfaces : List TypeRef) (si : Nat) : Prop :=
  ∀ ii < interfaces.length, isNamed named si ii = false

theorem named_isEmpty_iff {named : List (Nat × Nat)} {interfaces : List TypeRef} {si : Nat} :
    (interfaces.zipIdx.filter fun (_, ii) => isNamed named si ii).isEmpty = true ↔
      Unnamed named interfaces si := by
  rw [List.isEmpty_iff, List.filter_eq_nil_iff]
  constructor
  · intro h ii bound
    have := h (interfaces[ii], ii) (by simp [List.mem_zipIdx_iff_getElem?, bound])
    simpa using this
  · rintro h ⟨i, ii⟩ mem
    have bound := List.snd_lt_of_mem_zipIdx mem
    simp [h ii (by simpa using bound)]

theorem structPairings_of_unnamed {named : List (Nat × Nat)} {interfaces : List TypeRef}
    {s : TypeRef} {si : Nat} (h : Unnamed named interfaces si) :
    structPairings named interfaces s si =
      (interfaces.zipIdx.filter fun x => implements s x.1).map fun x => ⟨si, x.2, .heuristic⟩ := by
  simp only [structPairings, if_pos (named_isEmpty_iff.mpr h)]

theorem structPairings_of_named {named : List (Nat × Nat)} {interfaces : List TypeRef}
    {s : TypeRef} {si : Nat} (h : ¬ Unnamed named interfaces si) :
    structPairings named interfaces s si =
      (interfaces.zipIdx.filter fun x => isNamed named si x.2).map fun x => ⟨si, x.2, .oracle⟩ := by
  simp only [structPairings, if_neg (mt named_isEmpty_iff.mp h)]

theorem structPairings_concrete {named : List (Nat × Nat)} {interfaces : List TypeRef}
    {s : TypeRef} {si : Nat} {t : Pairing} (h : t ∈ structPairings named interfaces s si) :
    t.concrete = si := by
  by_cases unnamed : Unnamed named interfaces si
  · rw [structPairings_of_unnamed unnamed] at h
    obtain ⟨_, _, rfl⟩ := List.mem_map.mp h
    rfl
  · rw [structPairings_of_named unnamed] at h
    obtain ⟨_, _, rfl⟩ := List.mem_map.mp h
    rfl

theorem oracle_mem_structPairings {named : List (Nat × Nat)} {interfaces : List TypeRef}
    {s : TypeRef} {si ii : Nat} :
    ⟨si, ii, .oracle⟩ ∈ structPairings named interfaces s si ↔
      ii < interfaces.length ∧ isNamed named si ii = true := by
  by_cases unnamed : Unnamed named interfaces si
  · rw [structPairings_of_unnamed unnamed]
    constructor
    · simp
    · rintro ⟨bound, said⟩
      simp [unnamed ii bound] at said
  · rw [structPairings_of_named unnamed]
    simp only [List.mem_map, List.mem_filter, List.mem_zipIdx_iff_getElem?, Prod.exists,
      Pairing.mk.injEq, true_and, and_true]
    constructor
    · rintro ⟨i, _, ⟨there, said⟩, rfl⟩
      exact ⟨(List.getElem?_eq_some_iff.mp there).1, said⟩
    · rintro ⟨bound, said⟩
      exact ⟨interfaces[ii], ii, ⟨List.getElem?_eq_getElem bound, said⟩, rfl⟩

theorem heuristic_mem_structPairings {named : List (Nat × Nat)} {interfaces : List TypeRef}
    {s : TypeRef} {si ii : Nat} :
    ⟨si, ii, .heuristic⟩ ∈ structPairings named interfaces s si ↔
      Unnamed named interfaces si ∧ ∃ i, interfaces[ii]? = some i ∧ implements s i = true := by
  by_cases unnamed : Unnamed named interfaces si
  · rw [structPairings_of_unnamed unnamed]
    simp [unnamed, List.mem_zipIdx_iff_getElem?]
  · rw [structPairings_of_named unnamed]
    simp [unnamed]

theorem mem_pairings {named : List (Nat × Nat)} {structs interfaces : List TypeRef}
    {t : Pairing} :
    t ∈ pairings named structs interfaces ↔
      ∃ s, structs[t.concrete]? = some s ∧ t ∈ structPairings named interfaces s t.concrete := by
  simp only [pairings, List.mem_flatMap, List.mem_zipIdx_iff_getElem?, Prod.exists]
  constructor
  · rintro ⟨s, si, here, mem⟩
    obtain rfl := structPairings_concrete mem
    exact ⟨s, here, mem⟩
  · rintro ⟨s, here, mem⟩
    exact ⟨s, t.concrete, here, mem⟩

theorem mem_pairs {structs interfaces : List TypeRef} {si ii : Nat} :
    (si, ii) ∈ pairs structs interfaces ↔
      ∃ s i, structs[si]? = some s ∧ interfaces[ii]? = some i ∧ implements s i = true := by
  simp only [pairs, List.mem_flatMap, List.mem_filterMap, List.mem_zipIdx_iff_getElem?, Prod.exists,
    Option.ite_none_right_eq_some, Option.some.injEq, Prod.mk.injEq]
  constructor
  · rintro ⟨s, _, here, i, _, there, ok, rfl, rfl⟩
    exact ⟨s, i, here, there, ok⟩
  · rintro ⟨s, i, here, there, ok⟩
    exact ⟨s, si, here, i, ii, there, ok, rfl, rfl⟩

theorem oracle_mem_pairings {named : List (Nat × Nat)} {structs interfaces : List TypeRef}
    {si ii : Nat} :
    ⟨si, ii, .oracle⟩ ∈ pairings named structs interfaces ↔
      si < structs.length ∧ ii < interfaces.length ∧ isNamed named si ii = true := by
  simp only [mem_pairings, oracle_mem_structPairings]
  constructor
  · rintro ⟨s, here, said⟩
    exact ⟨(List.getElem?_eq_some_iff.mp here).1, said⟩
  · rintro ⟨bound, said⟩
    exact ⟨structs[si], List.getElem?_eq_getElem bound, said⟩

theorem heuristic_mem_pairings {named : List (Nat × Nat)} {structs interfaces : List TypeRef}
    {si ii : Nat} :
    ⟨si, ii, .heuristic⟩ ∈ pairings named structs interfaces ↔
      Unnamed named interfaces si ∧ (si, ii) ∈ pairs structs interfaces := by
  simp only [mem_pairings, heuristic_mem_structPairings, mem_pairs]
  constructor
  · rintro ⟨s, here, unnamed, i, there, ok⟩
    exact ⟨unnamed, s, i, here, there, ok⟩
  · rintro ⟨unnamed, s, i, here, there, ok⟩
    exact ⟨s, here, unnamed, i, there, ok⟩

/-- Matches come by struct and then by interface, each once. -/
theorem pairings_ordered (named : List (Nat × Nat)) (structs interfaces : List TypeRef) :
    (pairings named structs interfaces).Pairwise Pairing.Before := by
  rw [pairings, List.pairwise_flatMap]
  constructor
  · rintro ⟨s, si⟩ -
    dsimp only
    by_cases unnamed : Unnamed named interfaces si
    · rw [structPairings_of_unnamed unnamed, List.pairwise_map]
      exact ((zipIdx_pairwise_lt interfaces).filter _).imp fun h => Or.inr ⟨rfl, h⟩
    · rw [structPairings_of_named unnamed, List.pairwise_map]
      exact ((zipIdx_pairwise_lt interfaces).filter _).imp fun h => Or.inr ⟨rfl, h⟩
  · apply (zipIdx_pairwise_lt structs).imp
    rintro ⟨s, si⟩ ⟨s', si'⟩ lt t ht t' ht'
    obtain rfl := structPairings_concrete ht
    obtain rfl := structPairings_concrete ht'
    exact Or.inl lt

theorem matchStruct_of_unnamed {confidence : Float} {named : List (Nat × Nat)}
    {interfaces : List TypeRef} {s : TypeRef} {si : Nat} (h : Unnamed named interfaces si) :
    matchStruct confidence named interfaces s si =
      (interfaces.filter (implements s)).map (Implementation.byHeuristic s) := by
  simp only [matchStruct, if_pos (named_isEmpty_iff.mpr h)]

theorem matchStruct_of_named {confidence : Float} {named : List (Nat × Nat)}
    {interfaces : List TypeRef} {s : TypeRef} {si : Nat} (h : ¬ Unnamed named interfaces si) :
    matchStruct confidence named interfaces s si =
      (interfaces.zipIdx.filter fun x => isNamed named si x.2).map fun x =>
        Implementation.byOracle confidence s x.1 := by
  simp only [matchStruct, if_neg (mt named_isEmpty_iff.mp h)]

theorem structPairings_realizes (confidence : Float) (named : List (Nat × Nat))
    {structs interfaces : List TypeRef} {s : TypeRef} {si : Nat} (here : structs[si]? = some s) :
    List.Forall₂ (Pairing.Realizes confidence structs interfaces)
      (structPairings named interfaces s si) (matchStruct confidence named interfaces s si) := by
  by_cases unnamed : Unnamed named interfaces si
  · rw [structPairings_of_unnamed unnamed, matchStruct_of_unnamed unnamed,
      ← map_fst_filter_zipIdx (implements s) interfaces, List.map_map, List.forall₂_map_left_iff,
      List.forall₂_map_right_iff, List.forall₂_same]
    rintro ⟨i, ii⟩ mem
    have there := List.mem_zipIdx_iff_getElem?.mp (List.mem_filter.mp mem).1
    exact ⟨s, i, here, there, rfl⟩
  · rw [structPairings_of_named unnamed, matchStruct_of_named unnamed, List.forall₂_map_left_iff,
      List.forall₂_map_right_iff, List.forall₂_same]
    rintro ⟨i, ii⟩ mem
    have there := List.mem_zipIdx_iff_getElem?.mp (List.mem_filter.mp mem).1
    exact ⟨s, i, here, there, rfl⟩

/-- What is found struct by struct is what the matches give, in order. -/
theorem matchEach_realizes (confidence : Float) (named : List (Nat × Nat))
    (structs interfaces : List TypeRef) :
    List.Forall₂ (Pairing.Realizes confidence structs interfaces) (pairings named structs interfaces)
      (matchEach confidence named structs interfaces) := by
  have same : List.Forall₂ (fun a b => a = b ∧ structs[a.2]? = some a.1)
      structs.zipIdx structs.zipIdx :=
    List.forall₂_same.mpr fun x mem => ⟨rfl, List.mem_zipIdx_iff_getElem?.mp mem⟩
  apply List.rel_flatMap same
  rintro ⟨s, si⟩ _ ⟨rfl, here⟩
  exact structPairings_realizes confidence named here

/-! ## From places to implementations -/

/-- What is made of a match, under its places. -/
def Pairing.entry? (confidence : Float) (structs interfaces : List TypeRef) (t : Pairing) :
    Option ((Nat × Nat) × Implementation) :=
  let make := match t.strategy with
    | .heuristic => Implementation.byHeuristic
    | .oracle => Implementation.byOracle confidence
  (implementationAt? make structs interfaces (t.concrete, t.interface)).map
    ((t.concrete, t.interface), ·)

section

variable {confidence : Float} {structs interfaces : List TypeRef}

theorem Pairing.Realizes.entry?_eq {t : Pairing} {m : Implementation}
    (h : t.Realizes confidence structs interfaces m) :
    t.entry? confidence structs interfaces = some ((t.concrete, t.interface), m) := by
  obtain ⟨s, i, here, there, rfl⟩ := h
  cases strategy : t.strategy <;> simp [Pairing.entry?, implementationAt?, here, there, strategy]

theorem Pairing.entry?_place {t : Pairing} {x : (Nat × Nat) × Implementation}
    (h : t.entry? confidence structs interfaces = some x) : x.1 = (t.concrete, t.interface) := by
  obtain ⟨m, -, rfl⟩ := Option.map_eq_some_iff.mp h
  rfl

theorem map_snd_entries {found : List Pairing} {implementations : List Implementation}
    (h : List.Forall₂ (Pairing.Realizes confidence structs interfaces) found implementations) :
    (found.filterMap (Pairing.entry? confidence structs interfaces)).map Prod.snd =
      implementations := by
  induction h with
  | nil => rfl
  | cons first _ ih => rw [List.filterMap_cons, first.entry?_eq, List.map_cons, ih]

/-! ## Matching by method names is a run in which the oracle names nobody -/

theorem unnamed_nil (interfaces : List TypeRef) (si : Nat) : Unnamed [] interfaces si :=
  fun _ _ => rfl

theorem pairings_nil (structs interfaces : List TypeRef) :
    pairings [] structs interfaces = (pairs structs interfaces).map Pairing.byHeuristic := by
  rw [pairings, pairs, List.map_flatMap]
  congr 1
  funext ⟨s, si⟩
  dsimp only
  rw [structPairings_of_unnamed (unnamed_nil interfaces si), ← List.filterMap_eq_map,
    List.filterMap_filter, List.map_filterMap]
  congr 1
  funext ⟨i, ii⟩
  by_cases ok : implements s i = true <;> simp [ok, Pairing.byHeuristic]

theorem pairs_nodup (structs interfaces : List TypeRef) : (pairs structs interfaces).Nodup := by
  have ordered := pairings_ordered [] structs interfaces
  rw [pairings_nil, List.pairwise_map] at ordered
  apply ordered.imp
  rintro x y before rfl
  simp only [Pairing.Before] at before
  omega

theorem matchEach_nil (confidence : Float) (structs interfaces : List TypeRef) :
    matchEach confidence [] structs interfaces = heuristic structs interfaces := by
  rw [← map_snd_entries (matchEach_realizes confidence [] structs interfaces), pairings_nil,
    List.filterMap_map, List.map_filterMap, heuristic]
  congr 1
  funext x
  simp [Pairing.entry?, Pairing.byHeuristic, Function.comp_def]

/-! ## The order before sorting -/

/-- The structs that the oracle named for no interface. -/
def unresolved (named : List (Nat × Nat)) (structs : List TypeRef) : List Nat :=
  (List.range structs.length).filter fun si => si ∉ named.map Prod.fst

/-- The matches in the order in which they are found: the oracle's as it named them, and behind them
those of the other structs, at their places among all. -/
def foundPairings (named : List (Nat × Nat)) (structs interfaces : List TypeRef) : List Pairing :=
  (named.map fun x => ⟨x.1, x.2, .oracle⟩) ++
    (pairs ((unresolved named structs).filterMap fun si => structs[si]?) interfaces).filterMap
      fun x => (unresolved named structs)[x.1]?.map fun si => ⟨si, x.2, .heuristic⟩

variable {named : List (Nat × Nat)}

theorem mem_unresolved {si : Nat} :
    si ∈ unresolved named structs ↔ si < structs.length ∧ ∀ ii, (si, ii) ∉ named := by
  simp [unresolved]

theorem unresolved_nodup : (unresolved named structs).Nodup :=
  List.nodup_range.filter _

theorem getElem?_filterMap_getElem? {α : Type} {places : List Nat} {items : List α}
    (inside : ∀ i ∈ places, i < items.length) (k : Nat) :
    (places.filterMap fun i => items[i]?)[k]? = places[k]?.bind fun i => items[i]? := by
  induction places generalizing k with
  | nil => rfl
  | cons i places ih =>
    obtain ⟨bound, inside⟩ := List.forall_mem_cons.mp inside
    have here := List.getElem?_eq_getElem bound
    rw [List.filterMap_cons, here]
    cases k with
    | zero => simp [here]
    | succ k => exact ih inside k

/-- A struct is left over for method names under another place, and turned back to its own. -/
theorem heuristic_mem_foundPairings {si ii : Nat} :
    ⟨si, ii, .heuristic⟩ ∈ foundPairings named structs interfaces ↔
      si ∈ unresolved named structs ∧ (si, ii) ∈ pairs structs interfaces := by
  have types : ∀ ui, ((unresolved named structs).filterMap fun si => structs[si]?)[ui]? =
      (unresolved named structs)[ui]?.bind fun si => structs[si]? :=
    getElem?_filterMap_getElem? fun i mem => (mem_unresolved.mp mem).1
  simp only [foundPairings, List.mem_append, List.mem_map, List.mem_filterMap, Prod.exists, mem_pairs,
    types, Pairing.mk.injEq, Option.map_eq_some_iff, Option.bind_eq_some_iff]
  constructor
  · rintro (⟨_, _, -, -, -, impossible⟩ | ⟨ui, _, ⟨s, i, left, there, ok⟩, si, place, rfl, rfl, -⟩)
    · cases impossible
    · obtain ⟨sj, place', here⟩ := left
      obtain rfl : sj = si := Option.some.inj (place'.symm.trans place)
      exact ⟨List.mem_of_getElem? place, s, i, here, there, ok⟩
  · rintro ⟨left, s, i, here, there, ok⟩
    obtain ⟨ui, place⟩ := List.getElem?_of_mem left
    exact Or.inr ⟨ui, ii, ⟨s, i, ⟨si, place, here⟩, there, ok⟩, si, place, rfl, rfl, trivial⟩

theorem oracle_mem_foundPairings {si ii : Nat} :
    ⟨si, ii, .oracle⟩ ∈ foundPairings named structs interfaces ↔ (si, ii) ∈ named := by
  simp [foundPairings]

theorem foundPairings_nodup (once : named.Nodup) :
    (foundPairings named structs interfaces).Nodup := by
  refine List.nodup_append.mpr ⟨?_, ?_, ?_⟩
  · refine once.map fun x y same => ?_
    simp only [Pairing.mk.injEq, and_true] at same
    exact Prod.ext same.1 same.2
  · refine (pairs_nodup _ interfaces).filterMap ?_
    rintro ⟨ui, ii⟩ ⟨uj, ij⟩ t hi hj
    obtain ⟨si, atI, rfl⟩ := Option.map_eq_some_iff.mp hi
    obtain ⟨sj, atJ, same⟩ := Option.map_eq_some_iff.mp hj
    simp only [Pairing.mk.injEq, and_true] at same
    obtain ⟨rfl, rfl⟩ := same
    have places : ui = uj :=
      Option.some.inj ((idxOf?_of_getElem? unresolved_nodup atI).symm.trans
        (idxOf?_of_getElem? unresolved_nodup atJ))
    rw [places]
  · rintro t oracles t' heuristics rfl
    obtain ⟨x, -, rfl⟩ := List.mem_map.mp oracles
    obtain ⟨y, -, hy⟩ := List.mem_filterMap.mp heuristics
    obtain ⟨si, -, same⟩ := Option.map_eq_some_iff.mp hy
    simp at same

/-- The matches in the order in which they are found are the matches struct by struct, in another
order. -/
theorem perm_pairings (once : named.Nodup)
    (inside : ∀ x ∈ named, x.1 < structs.length ∧ x.2 < interfaces.length) :
    (foundPairings named structs interfaces).Perm (pairings named structs interfaces) := by
  have ordered : (pairings named structs interfaces).Nodup := by
    apply (pairings_ordered named structs interfaces).imp
    rintro t t' before rfl
    simp only [Pairing.Before] at before
    omega
  refine (List.perm_ext_iff_of_nodup (foundPairings_nodup once) ordered).mpr ?_
  rintro ⟨si, ii, _ | _⟩
  · rw [heuristic_mem_foundPairings, heuristic_mem_pairings, mem_unresolved]
    refine and_congr_left fun pair => ?_
    obtain ⟨s, -, here, -⟩ := mem_pairs.mp pair
    refine (and_iff_right (List.getElem?_eq_some_iff.mp here).1).trans ?_
    constructor
    · intro never ij _
      simpa [isNamed] using never ij
    · intro unnamed ij mem
      have := unnamed ij (inside _ mem).2
      simp [isNamed, mem] at this
  · rw [oracle_mem_foundPairings, oracle_mem_pairings]
    simp only [isNamed, List.contains_iff_mem]
    constructor
    · exact fun mem => ⟨(inside _ mem).1, (inside _ mem).2, mem⟩
    · exact fun h => h.2.2

/-! ## Sorted by place -/

theorem placeLe_iff {a b : Nat × Nat} :
    placeLe a b = true ↔ a.1 < b.1 ∨ a.1 = b.1 ∧ a.2 ≤ b.2 := by
  simp [placeLe]

/-- Whatever stands in the order of different places is what sorting by place gives. -/
theorem mergeSort_eq_of_perm {α : Type} {unsorted sorted : List ((Nat × Nat) × α)}
    (perm : unsorted.Perm sorted)
    (ordered : sorted.Pairwise fun a b =>
      a.1.1 < b.1.1 ∨ a.1.1 = b.1.1 ∧ a.1.2 < b.1.2) :
    unsorted.mergeSort (fun a b => placeLe a.1 b.1) = sorted := by
  have distinct : (sorted.map Prod.fst).Nodup := by
    rw [List.Nodup, List.pairwise_map]
    apply ordered.imp
    rintro a b before same
    rw [same] at before
    omega
  have perm' := (List.mergeSort_perm unsorted fun a b => placeLe a.1 b.1).trans perm
  refine List.Perm.eq_of_pairwise ?_ (List.pairwise_mergeSort ?_ ?_ unsorted) ?_ perm'
  · intro a b ha hb le ge
    rw [placeLe_iff] at le ge
    refine List.inj_on_of_nodup_map distinct (perm'.mem_iff.mp ha) hb (Prod.ext ?_ ?_) <;> omega
  · intro a b c
    simp only [placeLe_iff]
    omega
  · intro a b
    simp only [Bool.or_eq_true, placeLe_iff]
    omega
  · apply ordered.imp
    intro a b before
    rw [placeLe_iff]
    omega

/-- What is combined is what is found struct by struct. -/
theorem combine_implementations (once : named.Nodup)
    (inside : ∀ x ∈ named, x.1 < structs.length ∧ x.2 < interfaces.length) :
    (combine confidence named structs interfaces).implementations =
      matchEach confidence named structs interfaces := by
  have entries : (named.filterMap fun place =>
        (implementationAt? (.byOracle confidence) structs interfaces place).map (place, ·)) ++
      ((pairs ((unresolved named structs).filterMap fun si => structs[si]?) interfaces).filterMap
        fun x => (unresolved named structs)[x.1]?.bind fun si =>
          (implementationAt? .byHeuristic structs interfaces (si, x.2)).map ((si, x.2), ·)) =
      (foundPairings named structs interfaces).filterMap
        (Pairing.entry? confidence structs interfaces) := by
    rw [foundPairings, List.filterMap_append, List.filterMap_map, List.filterMap_filterMap]
    simp only [Option.bind_map]
    rfl
  have ordered : ((pairings named structs interfaces).filterMap
      (Pairing.entry? confidence structs interfaces)).Pairwise fun a b =>
        a.1.1 < b.1.1 ∨ a.1.1 = b.1.1 ∧ a.1.2 < b.1.2 := by
    refine (pairings_ordered named structs interfaces).filterMap _ ?_
    intro t t' before x hx y hy
    rw [Pairing.entry?_place hx, Pairing.entry?_place hy]
    exact before
  have sorted := mergeSort_eq_of_perm ((perm_pairings once inside).filterMap _) ordered
  rw [← map_snd_entries (matchEach_realizes confidence named structs interfaces), ← sorted, ← entries]
  rfl

theorem combine_oracleUsed (inside : ∀ x ∈ named, x.1 < structs.length ∧ x.2 < interfaces.length) :
    (combine confidence named structs interfaces).oracleUsed = true ↔ ∃ si ii, (si, ii) ∈ named := by
  simp only [combine, decide_eq_true_eq, List.length_pos_iff_exists_mem, List.mem_filterMap,
    Option.map_eq_some_iff]
  constructor
  · rintro ⟨_, place, mem, -⟩
    exact ⟨place.1, place.2, mem⟩
  · rintro ⟨si, ii, mem⟩
    obtain ⟨here, there⟩ := inside _ mem
    have made : implementationAt? (.byOracle confidence) structs interfaces (si, ii) =
        some (.byOracle confidence structs[si] interfaces[ii]) := by
      simp [implementationAt?, List.getElem?_eq_getElem here, List.getElem?_eq_getElem there]
    exact ⟨_, (si, ii), mem, _, made, rfl⟩

end

end ArchAtlas.Matching
