import ArchAtlas.Flow.Entry
import ArchAtlas.Proofs.TypeIndex

/-!
Which registration a call is attributed to. Several registrations can have the shape of one call, those
of different frameworks too; the call goes to the first of them. Registrations that name a receiver come
before those that do not, and within each kind the known frameworks come before the user's, each in the
order in which it was found or declared.

* `Registration.Matches` says what it is to have the shape of a call, by texts alone;
* `Listed` gives each registration its place, a list of numbers that are compared one by one;
* `inOrder` numbers the parts of a list, and `find?_ordered` says that what is found first in such a list
  has the least place;
* `find?_active`: the registration that is found for a call is the one it is `Attributed` to.
-/

namespace ArchAtlas.Flow

/-! ## Having the shape of a call -/

/-- A call has the shape of a registration: its name is the one given, it ends in the way given, and
its receiver, where it has one, holds the part given. -/
structure Registration.Matches (r : Registration) (c : Facts.Call) : Prop where
  name : ∀ m, r.method = some m → c.functionName = m
  ending : ∀ s, r.methodSuffix = some s → ∃ front, c.functionName = front ++ s
  receiver : ∀ part type, r.receiverContains = some part → c.receiverType = some type →
    ∃ front back, type = front ++ part ++ back

theorem Registration.fits_iff {r : Registration} {c : Facts.Call} :
    r.fits c = true ↔ r.Matches c := by
  rw [fits, Bool.and_eq_true, Bool.and_eq_true, Option.all_eq_true, Option.all_eq_true]
  simp only [decide_eq_true_eq, Text.endsWith_iff]
  constructor
  · rintro ⟨⟨name, ending⟩, receiver⟩
    refine ⟨name, ending, ?_⟩
    intro part type given known
    rw [given, known] at receiver
    exact Text.contains_iff.mp receiver
  · rintro ⟨name, ending, receiver⟩
    refine ⟨⟨name, ending⟩, ?_⟩
    split
    · rename_i part type given known
      exact Text.contains_iff.mpr (receiver part type given known)
    · rfl

/-! ## Places -/

/-- Places are compared number by number. -/
def Precedes (place place' : List Nat) : Prop := List.Lex (· < ·) place place'

theorem Precedes.asymm {place place' : List Nat} (h : Precedes place place') :
    ¬ Precedes place' place := by
  induction h with
  | nil => intro back; cases back
  | cons _ ih =>
    intro back
    cases back with
    | cons back => exact ih back
    | rel less => exact Nat.lt_irrefl _ less
  | rel less =>
    intro back
    cases back with
    | cons _ => exact Nat.lt_irrefl _ less
    | rel less' => exact Nat.lt_asymm less less'

section

variable {α : Type}

/-- Items with their places, in order. -/
def Ordered (items : List (List Nat × α)) : Prop :=
  items.Pairwise fun x y => Precedes x.1 y.1

/-- The parts one after another, where the number of its part comes first in the place of an item. -/
def inOrder (first : Nat) : List (List (List Nat × α)) → List (List Nat × α)
  | [] => []
  | part :: parts => part.map (fun x => (first :: x.1, x.2)) ++ inOrder (first + 1) parts

def numbered (items : List α) : List (List Nat × α) :=
  inOrder 0 (items.map fun x => [([], x)])

theorem map_snd_inOrder (first : Nat) (parts : List (List (List Nat × α))) :
    (inOrder first parts).map Prod.snd = parts.flatMap fun part => part.map Prod.snd := by
  induction parts generalizing first with
  | nil => rfl
  | cons part parts ih =>
    rw [inOrder, List.map_append, ih, List.flatMap_cons, List.map_map]
    rfl

theorem mem_inOrder {first : Nat} {parts : List (List (List Nat × α))} {place : List Nat} {x : α} :
    (place, x) ∈ inOrder first parts ↔
      ∃ i part rest, parts[i]? = some part ∧ (rest, x) ∈ part ∧ place = (first + i) :: rest := by
  induction parts generalizing first with
  | nil => simp [inOrder]
  | cons part parts ih =>
    rw [inOrder, List.mem_append, ih]
    constructor
    · rintro (mem | ⟨i, later, rest, here, mem, rfl⟩)
      · obtain ⟨y, inside, same⟩ := List.mem_map.mp mem
        obtain ⟨rfl, rfl⟩ := Prod.mk.inj same
        exact ⟨0, part, y.1, rfl, inside, rfl⟩
      · exact ⟨i + 1, later, rest, here, mem, by rw [Nat.add_assoc, Nat.add_comm 1 i]⟩
    · rintro ⟨i, found, rest, here, mem, rfl⟩
      cases i with
      | zero =>
        obtain rfl : part = found := Option.some.inj here
        exact Or.inl (List.mem_map.mpr ⟨(rest, x), mem, rfl⟩)
      | succ i => exact Or.inr ⟨i, found, rest, here, mem, by rw [Nat.add_assoc, Nat.add_comm 1 i]⟩

theorem ordered_inOrder (first : Nat) {parts : List (List (List Nat × α))}
    (ordered : ∀ part ∈ parts, Ordered part) : Ordered (inOrder first parts) := by
  induction parts generalizing first with
  | nil => exact List.Pairwise.nil
  | cons part parts ih =>
    refine List.pairwise_append.mpr ⟨?_, ih (first + 1) fun p mem => ordered p (by simp [mem]), ?_⟩
    · rw [List.pairwise_map]
      exact (ordered part (by simp)).imp List.Lex.cons
    · rintro ⟨place, x⟩ mem ⟨place', y⟩ mem'
      obtain ⟨z, -, same⟩ := List.mem_map.mp mem
      obtain ⟨rfl, -⟩ := Prod.mk.inj same
      obtain ⟨i, -, rest, -, -, rfl⟩ := mem_inOrder.mp mem'
      exact List.Lex.rel (by omega)

theorem map_snd_numbered (items : List α) : (numbered items).map Prod.snd = items := by
  rw [numbered, map_snd_inOrder, List.flatMap_map]
  exact List.flatMap_singleton' items

theorem mem_numbered {items : List α} {place : List Nat} {x : α} :
    (place, x) ∈ numbered items ↔ ∃ i, items[i]? = some x ∧ place = [i] := by
  rw [numbered, mem_inOrder]
  constructor
  · rintro ⟨i, part, rest, here, mem, rfl⟩
    rw [List.getElem?_map] at here
    obtain ⟨y, found, rfl⟩ := Option.map_eq_some_iff.mp here
    obtain ⟨rfl, rfl⟩ := Prod.mk.inj (List.mem_singleton.mp mem)
    exact ⟨i, found, by simp⟩
  · rintro ⟨i, here, rfl⟩
    exact ⟨i, [([], x)], [], by simp [here], by simp, by simp⟩

/-- In two parts the first number tells which of them it is. -/
theorem mem_inOrder_pair {first second : List (List Nat × α)} {place : List Nat} {x : α} :
    (place, x) ∈ inOrder 0 [first, second] ↔
      ∃ rest, (rest, x) ∈ first ∧ place = 0 :: rest ∨ (rest, x) ∈ second ∧ place = 1 :: rest := by
  rw [mem_inOrder]
  constructor
  · rintro ⟨i, part, rest, here, mem, rfl⟩
    match i, here with
    | 0, here =>
      obtain rfl : first = part := Option.some.inj here
      exact ⟨rest, Or.inl ⟨mem, rfl⟩⟩
    | 1, here =>
      obtain rfl : second = part := Option.some.inj here
      exact ⟨rest, Or.inr ⟨mem, rfl⟩⟩
  · rintro ⟨rest, ⟨mem, rfl⟩ | ⟨mem, rfl⟩⟩
    · exact ⟨0, first, rest, rfl, mem, rfl⟩
    · exact ⟨1, second, rest, rfl, mem, rfl⟩

/-- In rows of items the place is the number of the row and that of the item. -/
theorem mem_inOrder_rows {β : Type} {rows : List β} {row : β → List α} {place : List Nat} {x : α} :
    (place, x) ∈ inOrder 0 (rows.map fun y => numbered (row y)) ↔
      ∃ (i j : Nat) (y : β), rows[i]? = some y ∧ (row y)[j]? = some x ∧ place = [i, j] := by
  rw [mem_inOrder]
  constructor
  · rintro ⟨i, part, rest, here, mem, rfl⟩
    rw [List.getElem?_map] at here
    obtain ⟨y, found, rfl⟩ := Option.map_eq_some_iff.mp here
    obtain ⟨j, item, rfl⟩ := mem_numbered.mp mem
    exact ⟨i, j, y, found, item, by simp⟩
  · rintro ⟨i, j, y, found, item, rfl⟩
    exact ⟨i, numbered (row y), [j], by simp [found], mem_numbered.mpr ⟨j, item, rfl⟩, by simp⟩

theorem ordered_numbered (items : List α) : Ordered (numbered items) := by
  apply ordered_inOrder
  intro part mem
  obtain ⟨x, -, rfl⟩ := List.mem_map.mp mem
  exact List.pairwise_singleton _ _

/-- The first item that passes a test is the one with the least place of those that do. -/
theorem find?_ordered {items : List (List Nat × α)} (ordered : Ordered items) {test : α → Bool} {x : α} :
    (items.map Prod.snd).find? test = some x ↔
      ∃ place, (place, x) ∈ items ∧ test x = true ∧
        ∀ place' y, (place', y) ∈ items → test y = true → ¬ Precedes place' place := by
  induction items with
  | nil => simp
  | cons first rest ih =>
    obtain ⟨place, y⟩ := first
    obtain ⟨before, ordered⟩ := List.pairwise_cons.mp ordered
    rw [List.map_cons, List.find?_cons]
    cases passes : test y with
    | true =>
      constructor
      · intro found
        obtain rfl : y = x := Option.some.inj found
        refine ⟨place, by simp, passes, ?_⟩
        intro place' z mem _
        rcases List.mem_cons.mp mem with same | mem
        · obtain ⟨rfl, -⟩ := Prod.mk.inj same
          exact fun back => back.asymm back
        · exact (before _ mem).asymm
      · rintro ⟨place', mem, -, least⟩
        rcases List.mem_cons.mp mem with same | mem
        · obtain ⟨-, rfl⟩ := Prod.mk.inj same
          rfl
        · exact absurd (before _ mem) (least place y (by simp) passes)
    | false =>
      rw [ih ordered]
      constructor
      · rintro ⟨place', mem, hit, least⟩
        refine ⟨place', List.mem_cons_of_mem _ mem, hit, ?_⟩
        intro place'' z mem' hit'
        rcases List.mem_cons.mp mem' with same | mem'
        · obtain ⟨-, rfl⟩ := Prod.mk.inj same
          rw [passes] at hit'
          cases hit'
        · exact least place'' z mem' hit'
      · rintro ⟨place', mem, hit, least⟩
        rcases List.mem_cons.mp mem with same | mem
        · obtain ⟨-, rfl⟩ := Prod.mk.inj same
          rw [passes] at hit
          cases hit
        · exact ⟨place', mem, hit, fun place'' z mem' => least place'' z (List.mem_cons_of_mem _ mem')⟩

end

/-! ## The places of registrations -/

/-- Registrations that name a receiver come first, all others second. -/
def Registration.group (r : Registration) : Nat := if r.receiverContains = none then 1 else 0

/-- The registrations to look for with their places: whether they name a receiver, whether their framework
is one of the user's, the number of the framework as it was found or declared, and their own number
within it. -/
inductive Listed (detected : Frameworks) (custom : List Config.Framework) :
    List Nat → ActiveRegistration → Prop where
  | known {i j : Nat} {key : String} {rows : List Registration} {r : Registration}
      (found : detected.keys[i]? = some key) (known : (key, rows) ∈ table)
      (row : rows[j]? = some r) : Listed detected custom [r.group, 0, i, j] ⟨key, r⟩
  | declared {i j : Nat} {f : Config.Framework} {s : Config.CallShape}
      (declared : custom[i]? = some f) (shape : f.patterns[j]? = some s) :
      Listed detected custom [(Registration.ofShape f.protocol s).group, 1, i, j]
        ⟨f.name, .ofShape f.protocol s⟩

/-- A call is attributed to a registration: of all that have its shape, this has the least place. -/
def Attributed (detected : Frameworks) (custom : List Config.Framework) (c : Facts.Call)
    (a : ActiveRegistration) : Prop :=
  ∃ place, Listed detected custom place a ∧ a.registration.Matches c ∧
    ∀ place' a', Listed detected custom place' a' → a'.registration.Matches c →
      ¬ Precedes place' place

section

variable (detected : Frameworks) (custom : List Config.Framework)

def rankedCandidates : List (List Nat × ActiveRegistration) :=
  inOrder 0
    [inOrder 0 (detected.keys.map fun key =>
        numbered (((table.lookup key).getD []).map fun r => ⟨key, r⟩)),
      inOrder 0 (custom.map fun f =>
        numbered (f.patterns.map fun s => ⟨f.name, .ofShape f.protocol s⟩))]

def ranked : List (List Nat × ActiveRegistration) :=
  inOrder 0
    [(rankedCandidates detected custom).filter fun x => x.2.registration.isBound,
      (rankedCandidates detected custom).filter fun x => !x.2.registration.isBound]

theorem map_snd_rankedCandidates :
    (rankedCandidates detected custom).map Prod.snd = candidates detected custom := by
  simp [rankedCandidates, candidates, map_snd_inOrder, List.flatMap_map, map_snd_numbered]

theorem map_snd_ranked : (ranked detected custom).map Prod.snd = active detected custom := by
  have kept (keep : ActiveRegistration → Bool) :
      ((rankedCandidates detected custom).filter fun x => keep x.2).map Prod.snd =
        (candidates detected custom).filter keep := by
    rw [← map_snd_rankedCandidates, List.filter_map]
    rfl
  rw [ranked, map_snd_inOrder, List.flatMap_cons, List.flatMap_cons, List.flatMap_nil,
    List.append_nil, kept fun a => a.registration.isBound, kept fun a => !a.registration.isBound,
    active]

theorem ordered_ranked : Ordered (ranked detected custom) := by
  have candidates : Ordered (rankedCandidates detected custom) := by
    apply ordered_inOrder
    intro part mem
    simp only [List.mem_cons, List.not_mem_nil, or_false] at mem
    rcases mem with rfl | rfl
    · apply ordered_inOrder
      intro part mem
      obtain ⟨key, -, rfl⟩ := List.mem_map.mp mem
      exact ordered_numbered _
    · apply ordered_inOrder
      intro part mem
      obtain ⟨f, -, rfl⟩ := List.mem_map.mp mem
      exact ordered_numbered _
  apply ordered_inOrder
  intro part mem
  simp only [List.mem_cons, List.not_mem_nil, or_false] at mem
  rcases mem with rfl | rfl
  · exact candidates.filter _
  · exact candidates.filter _

/-- A framework stands in the table once. -/
theorem lookup_table {key : String} {j : Nat} {r : Registration} :
    ((table.lookup key).getD [])[j]? = some r ↔ ∃ rows, (key, rows) ∈ table ∧ rows[j]? = some r := by
  have once : ∀ entry ∈ table, table.lookup entry.1 = some entry.2 := by decide
  constructor
  · intro row
    cases found : table.lookup key with
    | none => simp [found] at row
    | some rows => exact ⟨rows, mem_of_lookup found, by simpa [found] using row⟩
  · rintro ⟨rows, known, row⟩
    rw [once _ known]
    exact row

variable {detected custom}

/-- The places of candidates are those of registrations without the first number. -/
theorem mem_rankedCandidates {place : List Nat} {a : ActiveRegistration} :
    (place, a) ∈ rankedCandidates detected custom ↔
      Listed detected custom (a.registration.group :: place) a := by
  rw [rankedCandidates, mem_inOrder_pair]
  simp only [mem_inOrder_rows]
  constructor
  · rintro ⟨_, ⟨⟨i, j, key, found, item, rfl⟩, rfl⟩ | ⟨⟨i, j, f, declared, item, rfl⟩, rfl⟩⟩
    · rw [List.getElem?_map] at item
      obtain ⟨r, row, rfl⟩ := Option.map_eq_some_iff.mp item
      obtain ⟨rows, known, row⟩ := lookup_table.mp row
      exact .known found known row
    · rw [List.getElem?_map] at item
      obtain ⟨s, shape, rfl⟩ := Option.map_eq_some_iff.mp item
      exact .declared declared shape
  · generalize whole : a.registration.group :: place = full
    intro listed
    cases listed with
    | @known i j key rows r found known row =>
      obtain ⟨-, rfl⟩ := List.cons.inj whole
      have row := lookup_table.mpr ⟨rows, known, row⟩
      exact ⟨[i, j], Or.inl ⟨⟨i, j, key, found, by simp [row], rfl⟩, rfl⟩⟩
    | @declared i j f s declared shape =>
      obtain ⟨-, rfl⟩ := List.cons.inj whole
      exact ⟨[i, j], Or.inr ⟨⟨i, j, f, declared, by simp [shape], rfl⟩, rfl⟩⟩

theorem Registration.isBound_eq_true_iff {r : Registration} : r.isBound = true ↔ r.group = 0 := by
  cases bound : r.receiverContains <;> simp [isBound, group, bound]

theorem Registration.isBound_eq_false_iff {r : Registration} : r.isBound = false ↔ r.group = 1 := by
  cases bound : r.receiverContains <;> simp [isBound, group, bound]

theorem Listed.group {place : List Nat} {a : ActiveRegistration}
    (listed : Listed detected custom place a) : ∃ rest, place = a.registration.group :: rest := by
  cases listed with
  | known => exact ⟨_, rfl⟩
  | declared => exact ⟨_, rfl⟩

theorem mem_ranked {place : List Nat} {a : ActiveRegistration} :
    (place, a) ∈ ranked detected custom ↔ Listed detected custom place a := by
  rw [ranked, mem_inOrder_pair]
  simp only [List.mem_filter, mem_rankedCandidates, Bool.not_eq_true',
    Registration.isBound_eq_true_iff, Registration.isBound_eq_false_iff]
  constructor
  · rintro ⟨rest, ⟨⟨listed, group⟩, rfl⟩ | ⟨⟨listed, group⟩, rfl⟩⟩
    · rwa [group] at listed
    · rwa [group] at listed
  · intro listed
    obtain ⟨rest, rfl⟩ := listed.group
    refine ⟨rest, ?_⟩
    cases bound : a.registration.isBound with
    | true =>
      have group := Registration.isBound_eq_true_iff.mp bound
      exact Or.inl ⟨⟨listed, group⟩, by rw [group]⟩
    | false =>
      have group := Registration.isBound_eq_false_iff.mp bound
      exact Or.inr ⟨⟨listed, group⟩, by rw [group]⟩

/-- The registration that is found for a call is the one that the call is attributed to. -/
theorem find?_active {c : Facts.Call} {a : ActiveRegistration} :
    ((active detected custom).find? fun a => a.registration.fits c) = some a ↔
      Attributed detected custom c a := by
  rw [← map_snd_ranked, find?_ordered (ordered_ranked detected custom)]
  simp only [mem_ranked, Registration.fits_iff, Attributed]

theorem Attributed.unique {c : Facts.Call} {a a' : ActiveRegistration}
    (h : Attributed detected custom c a) (h' : Attributed detected custom c a') : a = a' :=
  Option.some.inj ((find?_active.mpr h).symm.trans (find?_active.mpr h'))

end

end ArchAtlas.Flow
