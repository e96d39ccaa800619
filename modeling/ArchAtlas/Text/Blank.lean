/-!
Blank characters: the code points with the Unicode property `White_Space`, and trimming by them.
Texts are handled as lists of characters, so that every rule below is a rule on lists.
-/

namespace ArchAtlas.Text

/-- Code points with the property `White_Space`, as inclusive ranges in increasing order. -/
def blankRanges : List (Nat × Nat) :=
  [(0x09, 0x0D), (0x20, 0x20), (0x85, 0x85), (0xA0, 0xA0), (0x1680, 0x1680), (0x2000, 0x200A),
    (0x2028, 0x2029), (0x202F, 0x202F), (0x205F, 0x205F), (0x3000, 0x3000)]

/-- Whether a character lies in one of the given inclusive ranges of code points. -/
def inRanges (ranges : List (Nat × Nat)) (c : Char) : Bool :=
  ranges.any fun r => r.1 ≤ c.toNat && c.toNat ≤ r.2

def isBlank (c : Char) : Bool :=
  inRanges blankRanges c

def trimStart (s : List Char) : List Char :=
  s.dropWhile isBlank

/-- The text without its longest tail of characters satisfying `p`. -/
def dropEndWhile (p : Char → Bool) (s : List Char) : List Char :=
  (s.reverse.dropWhile p).reverse

def trimEnd (s : List Char) : List Char :=
  dropEndWhile isBlank s

def trim (s : List Char) : List Char :=
  trimEnd (trimStart s)

/-- The printed characters of ASCII are not blank. -/
theorem isBlank_of_printed {c : Char} (low : 33 ≤ c.toNat) (high : c.toNat ≤ 126) :
    isBlank c = false := by
  have apart : ∀ range ∈ blankRanges, range.2 < 33 ∨ 126 < range.1 := by decide
  rw [isBlank, inRanges, List.any_eq_false]
  intro range mem inside
  have outside := apart range mem
  simp only [Bool.and_eq_true, decide_eq_true_eq] at inside
  omega

theorem isBlank_of_isDigit {c : Char} (digit : c.isDigit = true) : isBlank c = false := by
  have bounds : 48 ≤ c.toNat ∧ c.toNat ≤ 57 := Char.isDigit_iff_toNat.mp digit
  exact isBlank_of_printed (by omega) (by omega)

theorem isBlank_of_isAlpha {c : Char} (letter : c.isAlpha = true) : isBlank c = false := by
  rcases (Bool.or_eq_true _ _).mp letter with upper | lower
  · have bounds : 65 ≤ c.toNat ∧ c.toNat ≤ 90 := of_decide_eq_true upper
    exact isBlank_of_printed (by omega) (by omega)
  · obtain ⟨low, high⟩ := (Bool.and_eq_true _ _).mp lower
    have least : 97 ≤ c.toNat := of_decide_eq_true low
    have most : c.toNat ≤ 122 := of_decide_eq_true high
    exact isBlank_of_printed (by omega) (by omega)

theorem dropWhile_eq_self {p : Char → Bool} {s : List Char} (first : ∀ c ∈ s.head?, p c = false) :
    s.dropWhile p = s := by
  cases s with
  | nil => rfl
  | cons a s => simp [first a (by simp)]

theorem dropEndWhile_eq_self {p : Char → Bool} {s : List Char}
    (last : ∀ c ∈ s.getLast?, p c = false) : dropEndWhile p s = s := by
  have turned : s.reverse.dropWhile p = s.reverse := dropWhile_eq_self (by simpa using last)
  rw [dropEndWhile, turned, List.reverse_reverse]

theorem trimStart_eq_self {c : Char} {s : List Char} (first : s.head? = some c)
    (solid : isBlank c = false) : trimStart s = s :=
  dropWhile_eq_self (by simp [first, solid])

theorem trimEnd_eq_self {c : Char} {s : List Char} (last : s.getLast? = some c)
    (solid : isBlank c = false) : trimEnd s = s :=
  dropEndWhile_eq_self (by simp [last, solid])

theorem dropEndWhile_append_of_all {p : Char → Bool} {s t : List Char}
    (h : ∀ c ∈ t, p c = true) : dropEndWhile p (s ++ t) = dropEndWhile p s := by
  have : ∀ (u v : List Char), (∀ c ∈ u, p c = true) → (u ++ v).dropWhile p = v.dropWhile p := by
    intro u v hu
    induction u with
    | nil => rfl
    | cons a u ih =>
      have ha := hu a List.mem_cons_self
      simp only [List.cons_append, List.dropWhile_cons, ha, if_true]
      exact ih fun c hc => hu c (List.mem_cons_of_mem _ hc)
  simp only [dropEndWhile, List.reverse_append]
  rw [this]
  simpa using h

end ArchAtlas.Text
