import ArchAtlas.Metrics
import ArchAtlas.Proofs.Distinct
import ArchAtlas.Proofs.Graph.Components
import Mathlib.SetTheory.Cardinal.Finite

/-!
What the number of components counts: classes of entities that are reachable from each other along
relations between entities.

* `Linked` is a relation between two entities, by their ids;
* `length_le_countComponents`, `exists_apart`: the number is the greatest number of entities of which no
  two are reachable from each other;
* `countComponents_le` compares the numbers of two sets of entities;
* `classes` are the classes themselves, and `components_count_classes` says that the number is theirs,
  so that it depends on nothing but which ids there are and which of them are related.
-/

namespace ArchAtlas.Metrics

open ArchAtlas.Graph (Mutual Joined)

def Linked (entities : List Entity) (relations : List Relation) (x y : String) : Prop :=
  x ∈ entities.map Entity.id ∧ y ∈ entities.map Entity.id ∧
    ∃ r ∈ relations, r.source = x ∧ r.target = y

instance (entities : List Entity) (relations : List Relation) (x y : String) :
    Decidable (Linked entities relations x y) :=
  inferInstanceAs (Decidable (_ ∧ _))

section

variable {ids : List String} {relations : List Relation} {entities : List Entity} {x y : String}
variable {i j : Nat}

theorem mem_edges :
    (i, j) ∈ edges ids relations ↔
      ∃ r ∈ relations, ids.idxOf? r.source = some i ∧ ids.idxOf? r.target = some j := by
  simp only [edges, List.mem_filterMap]
  refine exists_congr fun r => and_congr_right fun _ => ?_
  cases ids.idxOf? r.source <;> cases ids.idxOf? r.target <;> simp

theorem edges_inRange : ∀ e ∈ edges ids relations, e.1 < ids.length ∧ e.2 < ids.length := by
  rintro ⟨i, j⟩ mem
  obtain ⟨r, -, source, target⟩ := mem_edges.mp mem
  exact ⟨(List.idxOf?_eq_some_iff.mp source).1, (List.idxOf?_eq_some_iff.mp target).1⟩

theorem mem_nodes : x ∈ nodes entities ↔ x ∈ entities.map Entity.id := List.mem_eraseDups

theorem nodes_nodup (entities : List Entity) : (nodes entities).Nodup := nodup_eraseDups _

def place (entities : List Entity) (x : String) : Nat := ((nodes entities).idxOf? x).getD 0

def idAt (entities : List Entity) (i : Nat) : String := (nodes entities).getD i ""

theorem idAt_eq (h : (nodes entities)[i]? = some x) : idAt entities i = x := by
  rw [idAt, List.getD_eq_getElem?_getD, h, Option.getD_some]

theorem nodes_idAt (bound : i < (nodes entities).length) :
    (nodes entities)[i]? = some (idAt entities i) := by
  have here := List.getElem?_eq_getElem bound
  rw [idAt_eq here, here]

theorem nodes_place (known : x ∈ entities.map Entity.id) :
    (nodes entities)[place entities x]? = some x := by
  obtain ⟨i, found⟩ := Option.isSome_iff_exists.mp (List.isSome_idxOf?.mpr (mem_nodes.mpr known))
  rw [place, found]
  exact getElem?_of_idxOf? found

theorem place_idAt (bound : i < (nodes entities).length) : place entities (idAt entities i) = i := by
  rw [place, idxOf?_of_getElem? (nodes_nodup entities) (nodes_idAt bound), Option.getD_some]

theorem idAt_mem (bound : i < (nodes entities).length) : idAt entities i ∈ entities.map Entity.id :=
  mem_nodes.mp (List.mem_of_getElem? (nodes_idAt bound))

theorem linked_of_joined (h : Joined (edges (nodes entities) relations) i j) :
    Linked entities relations (idAt entities i) (idAt entities j) := by
  obtain ⟨inside, inside'⟩ := edges_inRange _ h
  obtain ⟨r, mem, source, target⟩ := mem_edges.mp h
  exact ⟨idAt_mem inside, idAt_mem inside', r, mem, (idAt_eq (getElem?_of_idxOf? source)).symm,
    (idAt_eq (getElem?_of_idxOf? target)).symm⟩

theorem joined_of_linked (h : Linked entities relations x y) :
    Joined (edges (nodes entities) relations) (place entities x) (place entities y) := by
  obtain ⟨known, known', r, mem, rfl, rfl⟩ := h
  exact mem_edges.mpr ⟨r, mem, idxOf?_of_getElem? (nodes_nodup entities) (nodes_place known),
    idxOf?_of_getElem? (nodes_nodup entities) (nodes_place known')⟩

/-- Entities of which no two are reachable from each other are no more than the components. -/
theorem length_le_countComponents {items : List String}
    (known : ∀ x ∈ items, x ∈ entities.map Entity.id)
    (apart : items.Pairwise fun x y => ¬ Mutual (Linked entities relations) x y) :
    items.length ≤ countComponents entities relations := by
  have bound : ∀ i ∈ items.map (place entities), i < (nodes entities).length := by
    intro i mem
    obtain ⟨x, hx, rfl⟩ := List.mem_map.mp mem
    exact (List.getElem?_eq_some_iff.mp (nodes_place (known x hx))).1
  have apart' : (items.map (place entities)).Pairwise fun i j =>
      ¬ Mutual (Joined (edges (nodes entities) relations)) i j := by
    rw [List.pairwise_map]
    apply apart.imp_of_mem
    intro x y hx hy apart both
    have := both.lift (idAt entities) fun _ _ h => .single (linked_of_joined h)
    rw [idAt_eq (nodes_place (known x hx)), idAt_eq (nodes_place (known y hy))] at this
    exact apart this
  rw [← List.length_map (place entities)]
  exact Graph.length_le_components edges_inRange bound apart'

/-- One entity of each component: there are as many entities of which no two are reachable from each
other. -/
theorem exists_apart (entities : List Entity) (relations : List Relation) :
    ∃ items : List String, items.length = countComponents entities relations ∧
      (∀ x ∈ items, x ∈ entities.map Entity.id) ∧
      items.Pairwise fun x y => ¬ Mutual (Linked entities relations) x y := by
  obtain ⟨indices, count, bound, apart⟩ :=
    Graph.exists_representatives (@edges_inRange (nodes entities) relations)
  refine ⟨indices.map (idAt entities), (List.length_map _).trans count, ?_, ?_⟩
  · intro x mem
    obtain ⟨i, hi, rfl⟩ := List.mem_map.mp mem
    exact idAt_mem (bound i hi)
  · rw [List.pairwise_map]
    apply apart.imp_of_mem
    intro i j hi hj apart both
    have := both.lift (place entities) fun _ _ h => .single (joined_of_linked h)
    rw [place_idAt (bound i hi), place_idAt (bound j hj)] at this
    exact apart this

/-! ## The number of classes -/

/-- The ids of the entities, those in one class that are reachable from each other. -/
def classes (entities : List Entity) (relations : List Relation) :
    Setoid { x // x ∈ entities.map Entity.id } where
  r x y := Mutual (Linked entities relations) x.1 y.1
  iseqv := ⟨fun _ => .refl _ _, .symm, .trans⟩

/-- Entities of which no two are reachable from each other, as many as there are components, have one
entity in every class: with an entity of a further class they would be too many. -/
theorem countComponents_eq_card (entities : List Entity) (relations : List Relation) :
    countComponents entities relations = Nat.card (Quotient (classes entities relations)) := by
  obtain ⟨items, count, known, apart⟩ := exists_apart entities relations
  let pick (i : Fin items.length) : Quotient (classes entities relations) :=
    Quotient.mk _ ⟨items[i], known _ (List.getElem_mem i.isLt)⟩
  have injective : Function.Injective pick := by
    intro i j same
    have both : Mutual (Linked entities relations) items[i] items[j] := Quotient.exact same
    have ordered := List.pairwise_iff_getElem.mp apart
    by_contra differ
    rcases Nat.lt_or_gt_of_ne (Fin.val_ne_of_ne differ) with less | less
    · exact ordered i j i.isLt j.isLt less both
    · exact ordered j i j.isLt i.isLt less both.symm
  have surjective : Function.Surjective pick := by
    refine Quotient.ind fun x => ?_
    by_contra missed
    have further : ∀ y ∈ items, ¬ Mutual (Linked entities relations) x.1 y := by
      intro y mem both
      obtain ⟨i, bound, rfl⟩ := List.getElem_of_mem mem
      exact missed ⟨⟨i, bound⟩, Quotient.sound both.symm⟩
    have all : ∀ y ∈ x.1 :: items, y ∈ entities.map Entity.id := by
      intro y mem
      rcases List.mem_cons.mp mem with rfl | mem
      · exact x.2
      · exact known y mem
    have most := length_le_countComponents all (List.pairwise_cons.mpr ⟨further, apart⟩)
    rw [List.length_cons] at most
    omega
  calc countComponents entities relations
    _ = items.length := count.symm
    _ = Nat.card (Fin items.length) := (Nat.card_fin _).symm
    _ = Nat.card (Quotient (classes entities relations)) :=
      Nat.card_eq_of_bijective pick ⟨injective, surjective⟩

variable {entities' : List Entity} {relations' : List Relation}

/-- Where entities of different classes have images in different classes, there are no more classes than
among the images. -/
theorem countComponents_le (image : String → String)
    (known : ∀ x ∈ entities.map Entity.id, image x ∈ entities'.map Entity.id)
    (together : ∀ x ∈ entities.map Entity.id, ∀ y ∈ entities.map Entity.id,
      Mutual (Linked entities' relations') (image x) (image y) →
        Mutual (Linked entities relations) x y) :
    countComponents entities relations ≤ countComponents entities' relations' := by
  obtain ⟨items, count, inside, apart⟩ := exists_apart entities relations
  rw [← count, ← List.length_map image]
  apply length_le_countComponents
  · intro x mem
    obtain ⟨y, hy, rfl⟩ := List.mem_map.mp mem
    exact known y (inside y hy)
  · rw [List.pairwise_map]
    apply apart.imp_of_mem
    intro x y hx hy apart both
    exact apart (together x (inside x hx) y (inside y hy) both)

def Spans (entities : List Entity) (r : Relation) : Prop :=
  r.source ≠ r.target ∧ r.source ∈ entities.map Entity.id ∧ r.target ∈ entities.map Entity.id

/-- A relation of an entity with itself is no step, and one with an unknown end is no link. -/
theorem linked_of_spans (known : ∀ x ∈ entities'.map Entity.id, x ∈ entities.map Entity.id)
    (kept : ∀ r ∈ relations', Spans entities r → r ∈ relations)
    (link : Linked entities' relations' x y) :
    Relation.ReflTransGen (Linked entities relations) x y := by
  obtain ⟨hx, hy, r, mem, rfl, rfl⟩ := link
  by_cases loop : r.source = r.target
  · rw [loop]
  · have spans : Spans entities r := ⟨loop, known _ hx, known _ hy⟩
    exact .single ⟨known _ hx, known _ hy, r, kept r mem spans, rfl, rfl⟩

end

/-- The number of components is the number of classes of ids that are reachable from each other. So it
is the same for entities with the same ids, in any order and number, and for relations that are the same
between different entities, again in any order and number and whatever others there are. -/
theorem components_count_classes (entities : List Entity) (relations : List Relation) :
    countComponents entities relations = Nat.card (Quotient (classes entities relations)) ∧
    ∀ entities' relations',
      (∀ x, x ∈ entities'.map Entity.id ↔ x ∈ entities.map Entity.id) →
      (∀ r, Spans entities r → (r ∈ relations' ↔ r ∈ relations)) →
      countComponents entities' relations' = countComponents entities relations := by
  refine ⟨countComponents_eq_card entities relations, fun entities' relations' ids same => ?_⟩
  have links {x y : String} (link : Linked entities' relations' x y) :
      Relation.ReflTransGen (Linked entities relations) x y :=
    linked_of_spans (fun x => (ids x).mp) (fun r mem spans => (same r spans).mp mem) link
  have links' {x y : String} (link : Linked entities relations x y) :
      Relation.ReflTransGen (Linked entities' relations') x y := by
    refine linked_of_spans (fun x => (ids x).mpr) (fun r mem spans => ?_) link
    have spans' : Spans entities r := ⟨spans.1, (ids _).mp spans.2.1, (ids _).mp spans.2.2⟩
    exact (same r spans').mpr mem
  have fewer : countComponents entities' relations' ≤ countComponents entities relations :=
    countComponents_le id (fun x => (ids x).mp) fun _ _ _ _ both =>
      both.lift id fun _ _ => links'
  have more : countComponents entities relations ≤ countComponents entities' relations' :=
    countComponents_le id (fun x => (ids x).mpr) fun _ _ _ _ both =>
      both.lift id fun _ _ => links
  exact Nat.le_antisymm fewer more

def named (ids : List String) : List Entity :=
  ids.map fun id => ⟨id, id, .struct, .exposed, [], ⟨"", 1, 1⟩⟩

/-- Two entities that refer to each other and a third that one of them refers to. Neither repeated
entities and relations nor a relation of an entity with itself or with an unknown one change the two
components. -/
theorem components_count_classes_threeTypes :
    let forth := Relation.explicit "1" .dependency "X" "Y"
    let back := Relation.explicit "2" .dependency "Y" "X"
    let aside := Relation.explicit "3" .dependency "Y" "Z"
    let loop := Relation.explicit "4" .dependency "Z" "Z"
    let unknown := Relation.explicit "5" .dependency "Z" "Q"
    countComponents (named ["X", "Y", "Z"]) [forth, back, aside] = 2 ∧
    countComponents (named ["Z", "X", "Y", "X"]) [unknown, aside, back, loop, forth, back] = 2 := by
  intro forth back aside loop unknown
  have two : countComponents (named ["X", "Y", "Z"]) [forth, back, aside] = 2 := by decide
  refine ⟨two, Eq.trans ?_ two⟩
  have forward : ∀ x ∈ (named ["Z", "X", "Y", "X"]).map Entity.id,
      x ∈ (named ["X", "Y", "Z"]).map Entity.id := by decide
  have backward : ∀ x ∈ (named ["X", "Y", "Z"]).map Entity.id,
      x ∈ (named ["Z", "X", "Y", "X"]).map Entity.id := by decide
  refine (components_count_classes (named ["X", "Y", "Z"]) [forth, back, aside]).2 _ _
    (fun x => ⟨forward x, backward x⟩) ?_
  rintro r ⟨differ, -, known⟩
  have loopless : r ≠ loop := by
    rintro rfl
    exact differ rfl
  have known' : r ≠ unknown := by
    rintro rfl
    revert known
    decide
  simp only [List.mem_cons, List.not_mem_nil, or_false, loopless, known', false_or]
  constructor
  · rintro (rfl | rfl | rfl | rfl) <;> simp
  · rintro (rfl | rfl | rfl) <;> simp

end ArchAtlas.Metrics
