/-!
Cutting a text at a character or at a marker.

* `splitFirst?`, `splitLast?` cut at the first and at the last occurrence of a character;
* `afterLast` is what follows the last occurrence, or the whole text;
* `after?` is what follows a marker at the start of a text;
* `isInfix`, `afterLastInfix?` look for a marker anywhere in a text;
* `startsWith`, `endsWith`, `contains` are the tests on strings.
-/

namespace ArchAtlas.Text

/-- The text cut at the first `c`, which belongs to neither part. -/
def splitFirst? (c : Char) : List Char → Option (List Char × List Char)
  | [] => none
  | a :: s =>
    if a = c then some ([], s) else (splitFirst? c s).map fun (u, v) => (a :: u, v)

/-- The text cut at the last `c`, which belongs to neither part. -/
def splitLast? (c : Char) : List Char → Option (List Char × List Char)
  | [] => none
  | a :: s =>
    match splitLast? c s with
    | some (u, v) => some (a :: u, v)
    | none => if a = c then some ([], s) else none

/-- What follows the last `c`; the whole text when there is none. -/
def afterLast (c : Char) (s : List Char) : List Char :=
  match splitLast? c s with
  | some (_, v) => v
  | none => s

/-- What stands before the first `c`; the whole text when there is none. -/
def beforeFirst (c : Char) (s : List Char) : List Char :=
  s.takeWhile fun a => a != c

/-- Whether the marker occurs in the text. -/
def isInfix (marker : List Char) : List Char → Bool
  | [] => marker.isEmpty
  | a :: s => marker.isPrefixOf (a :: s) || isInfix marker s

/-- What follows the marker in a text that starts with it. -/
def after? : List Char → List Char → Option (List Char)
  | [], s => some s
  | _ :: _, [] => none
  | m :: marker, a :: s => if m = a then after? marker s else none

/-- What follows the last occurrence of a non-empty marker. -/
def afterLastInfix? (marker : List Char) : List Char → Option (List Char)
  | [] => none
  | a :: s =>
    match afterLastInfix? marker s with
    | some r => some r
    | none => after? marker (a :: s)

def startsWith (s start : String) : Bool :=
  start.toList.isPrefixOf s.toList

def endsWith (s ending : String) : Bool :=
  ending.toList.isSuffixOf s.toList

def contains (s part : String) : Bool :=
  isInfix part.toList s.toList

theorem after?_eq_some_iff {marker s r : List Char} : after? marker s = some r ↔ s = marker ++ r := by
  fun_induction after? marker s with
  | case1 s => simp [eq_comm]
  | case2 => simp
  | case3 m marker s ih => simp [ih]
  | case4 m marker a s h => simp [Ne.symm h]

theorem isInfix_iff {marker s : List Char} : isInfix marker s = true ↔ marker <:+: s := by
  induction s with
  | nil => simp [isInfix]
  | cons a s ih => simp [isInfix, ih, List.infix_cons_iff, List.isPrefixOf_iff_prefix]

theorem startsWith_iff {s start : String} :
    startsWith s start = true ↔ ∃ rest, s = start ++ rest := by
  rw [startsWith, List.isPrefixOf_iff_prefix]
  constructor
  · rintro ⟨rest, letters⟩
    exact ⟨String.ofList rest, String.toList_inj.mp (by simp [← letters])⟩
  · rintro ⟨rest, rfl⟩
    exact ⟨rest.toList, String.toList_append.symm⟩

theorem endsWith_iff {s ending : String} :
    endsWith s ending = true ↔ ∃ front, s = front ++ ending := by
  rw [endsWith, List.isSuffixOf_iff_suffix]
  constructor
  · rintro ⟨front, letters⟩
    exact ⟨String.ofList front, String.toList_inj.mp (by simp [← letters])⟩
  · rintro ⟨front, rfl⟩
    exact ⟨front.toList, String.toList_append.symm⟩

theorem contains_iff {s part : String} :
    contains s part = true ↔ ∃ front back, s = front ++ part ++ back := by
  rw [contains, isInfix_iff]
  constructor
  · rintro ⟨front, back, letters⟩
    exact ⟨String.ofList front, String.ofList back, String.toList_inj.mp (by simp [← letters])⟩
  · rintro ⟨front, back, rfl⟩
    exact ⟨front.toList, back.toList, by simp⟩

theorem splitFirst?_eq_none_iff {c : Char} {s : List Char} : splitFirst? c s = none ↔ c ∉ s := by
  induction s with
  | nil => simp [splitFirst?]
  | cons a s ih =>
    by_cases h : a = c
    · simp [splitFirst?, h]
    · simp [splitFirst?, h, ih, Ne.symm h]

theorem splitLast?_eq_none_iff {c : Char} {s : List Char} : splitLast? c s = none ↔ c ∉ s := by
  induction s with
  | nil => simp [splitLast?]
  | cons a s ih =>
    simp only [splitLast?]
    cases h : splitLast? c s with
    | some p =>
      have : c ∈ s := by
        by_cases hc : c ∈ s
        · exact hc
        · rw [ih.2 hc] at h; cases h
      simp [this]
    | none =>
      have := ih.1 h
      by_cases ha : a = c
      · simp [ha]
      · simp [ha, Ne.symm ha, this]

theorem eq_of_splitFirst? {c : Char} {s u v : List Char} (h : splitFirst? c s = some (u, v)) :
    s = u ++ c :: v ∧ c ∉ u := by
  induction s generalizing u v with
  | nil => simp [splitFirst?] at h
  | cons a s ih =>
    by_cases ha : a = c
    · simp only [splitFirst?, ha, if_true, Option.some.injEq, Prod.mk.injEq] at h
      obtain ⟨rfl, rfl⟩ := h
      simp [ha]
    · simp only [splitFirst?, ha, if_false] at h
      obtain ⟨⟨u', v'⟩, h', e⟩ := Option.map_eq_some_iff.1 h
      simp only [Prod.mk.injEq] at e
      obtain ⟨rfl, rfl⟩ := e
      obtain ⟨rfl, hn⟩ := ih h'
      exact ⟨rfl, by simp [hn, Ne.symm ha]⟩

theorem eq_of_splitLast? {c : Char} {s u v : List Char} (h : splitLast? c s = some (u, v)) :
    s = u ++ c :: v ∧ c ∉ v := by
  induction s generalizing u v with
  | nil => simp [splitLast?] at h
  | cons a s ih =>
    simp only [splitLast?] at h
    cases hs : splitLast? c s with
    | some p =>
      obtain ⟨u', v'⟩ := p
      simp only [hs, Option.some.injEq, Prod.mk.injEq] at h
      obtain ⟨rfl, rfl⟩ := h
      obtain ⟨rfl, hn⟩ := ih hs
      exact ⟨rfl, hn⟩
    | none =>
      simp only [hs] at h
      by_cases ha : a = c
      · simp only [ha, if_true, Option.some.injEq, Prod.mk.injEq] at h
        obtain ⟨rfl, rfl⟩ := h
        exact ⟨by simp [ha], splitLast?_eq_none_iff.1 hs⟩
      · simp [ha] at h

theorem splitFirst?_append {c : Char} {u v : List Char} (first : c ∉ u) :
    splitFirst? c (u ++ c :: v) = some (u, v) := by
  induction u with
  | nil => simp [splitFirst?]
  | cons a u ih =>
    have other : a ≠ c := fun same => first (same ▸ List.mem_cons_self)
    have rest : c ∉ u := fun mem => first (List.mem_cons_of_mem _ mem)
    simp [splitFirst?, other, ih rest]

theorem splitLast?_append {c : Char} {u v : List Char} (last : c ∉ v) :
    splitLast? c (u ++ c :: v) = some (u, v) := by
  induction u with
  | nil => simp [splitLast?, splitLast?_eq_none_iff.2 last]
  | cons a u ih => simp [splitLast?, ih]

end ArchAtlas.Text
