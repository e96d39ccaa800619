import Mathlib.Data.List.Basic

namespace ArchAtlas.Text

section

variable {α : Type} {a : α} {front front' back back' : List α}

/-- Two cuts of a text at a separator are the same, or there is a part between them. -/
theorem split_cases (same : front ++ a :: back = front' ++ a :: back') :
    (front = front' ∧ back = back') ∨
    (∃ between, front' = front ++ a :: between ∧ back = between ++ a :: back') ∨
    ∃ between, front = front' ++ a :: between ∧ back' = between ++ a :: back := by
  rcases List.append_eq_append_iff.mp same with ⟨gap, rfl, rest⟩ | ⟨gap, rfl, rest⟩
  · cases gap with
    | nil => exact Or.inl (by simpa using rest)
    | cons b between =>
      obtain ⟨rfl, rfl⟩ := List.cons.inj rest
      exact Or.inr (Or.inl ⟨between, rfl, rfl⟩)
  · cases gap with
    | nil => exact Or.inl (by simpa [eq_comm] using rest)
    | cons b between =>
      obtain ⟨rfl, rfl⟩ := List.cons.inj rest
      exact Or.inr (Or.inr ⟨between, rfl, rfl⟩)

/-- A list can be split in only one way at the last place where an element stands. -/
theorem split_at_last (last : a ∉ back) (last' : a ∉ back')
    (same : front ++ a :: back = front' ++ a :: back') : front = front' ∧ back = back' := by
  rcases split_cases same with both | ⟨between, -, rfl⟩ | ⟨between, -, rfl⟩
  · exact both
  · exact absurd (by simp) last
  · exact absurd (by simp) last'

end

theorem toDigits_injective : Function.Injective (Nat.toDigits 10) := by
  intro m n same
  calc
    m = Nat.ofDigitChars 10 (Nat.toDigits 10 m) 0 := Nat.ofDigitChars_ten_toDigits.symm
    _ = Nat.ofDigitChars 10 (Nat.toDigits 10 n) 0 := by rw [same]
    _ = n := Nat.ofDigitChars_ten_toDigits

theorem toString_injective : Function.Injective (toString : Nat → String) := by
  intro m n same
  apply toDigits_injective
  simpa using congrArg String.toList same

/-- A number is written without the characters that are no digits. -/
theorem not_mem_toString {c : Char} (other : c.isDigit = false) (n : Nat) :
    c ∉ (toString n).toList := by
  intro mem
  have digits : c ∈ Nat.toDigits 10 n := by simpa using mem
  have digit := Nat.isDigit_of_mem_toDigits (by decide) (by decide) digits
  rw [other] at digit
  cases digit

section

variable {a : Char} {sep s s' t t' : String}

theorem toList_joined (one : sep.toList = [a]) (s t : String) :
    (s ++ sep ++ t).toList = s.toList ++ a :: t.toList := by
  simp [one]

/-- Two strings joined by a separator can be told apart where the second does not hold it. -/
theorem joined_inj (one : sep.toList = [a]) (plain : a ∉ t.toList) (plain' : a ∉ t'.toList)
    (same : s ++ sep ++ t = s' ++ sep ++ t') : s = s' ∧ t = t' := by
  have letters := congrArg String.toList same
  rw [toList_joined one, toList_joined one] at letters
  obtain ⟨first, second⟩ := split_at_last plain plain' letters
  exact ⟨String.toList_inj.mp first, String.toList_inj.mp second⟩

/-- Two pairs of strings are joined to the same when they are the same, or when a part that one pair
has at its end the other has at its start. -/
theorem joined_eq_iff (one : sep.toList = [a]) :
    s ++ sep ++ t = s' ++ sep ++ t' ↔
      (s = s' ∧ t = t') ∨
      (∃ u, s' = s ++ sep ++ u ∧ t = u ++ sep ++ t') ∨
      ∃ u, s = s' ++ sep ++ u ∧ t' = u ++ sep ++ t := by
  constructor
  · intro same
    have letters := congrArg String.toList same
    rw [toList_joined one, toList_joined one] at letters
    rcases split_cases letters with ⟨first, second⟩ | ⟨u, first, second⟩ | ⟨u, first, second⟩
    · exact Or.inl ⟨String.toList_inj.mp first, String.toList_inj.mp second⟩
    · exact Or.inr (Or.inl ⟨String.ofList u, String.toList_inj.mp (by simp [first, one]),
        String.toList_inj.mp (by simp [second, one])⟩)
    · exact Or.inr (Or.inr ⟨String.ofList u, String.toList_inj.mp (by simp [first, one]),
        String.toList_inj.mp (by simp [second, one])⟩)
  · rintro (⟨rfl, rfl⟩ | ⟨u, rfl, rfl⟩ | ⟨u, rfl, rfl⟩) <;> simp only [String.append_assoc]

/-- Where a separator is not empty, no string is joined to itself. -/
theorem joined_ne_left (one : sep.toList = [a]) (s t : String) : s ++ sep ++ t ≠ s := by
  intro same
  have letters := congrArg (fun x => x.toList.length) same
  simp only [toList_joined one, List.length_append, List.length_cons] at letters
  omega

end

theorem toList_hyphen (s t : String) : (s ++ "-" ++ t).toList = s.toList ++ '-' :: t.toList :=
  toList_joined rfl s t

theorem hyphen_inj {s s' t t' : String} (plain : '-' ∉ t.toList) (plain' : '-' ∉ t'.toList)
    (same : s ++ "-" ++ t = s' ++ "-" ++ t') : s = s' ∧ t = t' :=
  joined_inj rfl plain plain' same

theorem hyphen_eq_iff {s s' t t' : String} :
    s ++ "-" ++ t = s' ++ "-" ++ t' ↔
      (s = s' ∧ t = t') ∨
      (∃ u, s' = s ++ "-" ++ u ∧ t = u ++ "-" ++ t') ∨
      ∃ u, s = s' ++ "-" ++ u ∧ t' = u ++ "-" ++ t :=
  joined_eq_iff rfl

end ArchAtlas.Text
