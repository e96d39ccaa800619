import Mathlib.Algebra.Group.Nat.Defs
import Mathlib.Tactic.SplitIfs

/-!
The order of texts is the order of their bytes. A character is written as a lead byte and up to three
trailing bytes, each a place to the base 64; a wider character has a greater lead byte, and among
characters of one width the first place that differs decides.

* `bytes` is the encoding of a text;
* `encodeChar_lt`: the encoding of a character comes before that of a greater one, whatever follows;
* `bytes_lt`: the encoding of a text comes before that of a greater one.
-/

namespace ArchAtlas.Text

def bytes (s : String) : List UInt8 :=
  s.toByteArray.data.toList

theorem bytes_eq_flatMap (s : String) : bytes s = s.toList.flatMap String.utf8EncodeChar := by
  rw [bytes, ← String.utf8Encode_toList, List.utf8Encode, List.toList_data_toByteArray]

/-! ## One character -/

/-- The trailing bytes of a number: its last places to the base 64. -/
def trailing : (places : Nat) → Nat → List UInt8
  | 0, _ => []
  | places + 1, n => trailing places (n / 64) ++ [UInt8.ofNat (n % 64 + 128)]

/-- How many trailing bytes a code point has. -/
def places (n : Nat) : Nat :=
  if n ≤ 127 then 0 else if n ≤ 2047 then 1 else if n ≤ 65535 then 2 else 3

/-- What a lead byte has in front of the first place, by the number of trailing bytes. -/
def leadMark : Nat → Nat
  | 0 => 0
  | 1 => 192
  | 2 => 224
  | _ => 240

theorem cons_ofNat_lt {m n : Nat} (less : m < n) (byte : n < 256) (x y : List UInt8) :
    UInt8.ofNat m :: x < UInt8.ofNat n :: y := by
  refine List.cons_lt_cons_iff.mpr (Or.inl (UInt8.lt_iff_toNat_lt.mpr ?_))
  rw [UInt8.toNat_ofNat_of_lt' byte, UInt8.toNat_ofNat_of_lt' (Nat.lt_trans less byte)]
  exact less

/-- Of two numbers with the same places, the smaller comes first. -/
theorem trailing_lt (mark k : Nat) {m n : Nat} (less : m < n) (byte : mark + n / 64 ^ k < 256)
    (x y : List UInt8) :
    UInt8.ofNat (mark + m / 64 ^ k) :: (trailing k m ++ x) <
      UInt8.ofNat (mark + n / 64 ^ k) :: (trailing k n ++ y) := by
  induction k generalizing m n x y with
  | zero => exact cons_ofNat_lt (by simpa using less) byte _ _
  | succ k ih =>
    have shift : ∀ a : Nat, a / 64 ^ (k + 1) = a / 64 / 64 ^ k := by
      intro a
      rw [Nat.div_div_eq_div_mul, Nat.pow_succ, Nat.mul_comm]
    rw [shift] at byte
    simp only [shift, trailing, List.append_assoc, List.singleton_append]
    rcases Nat.lt_or_ge (m / 64) (n / 64) with front | front
    · exact ih front byte _ _
    · have same : m / 64 = n / 64 := by omega
      rw [same, ← List.cons_append, ← List.cons_append]
      exact List.append_left_lt (cons_ofNat_lt (by omega) (by omega) x y)

theorem encodeChar_eq (c : Char) :
    String.utf8EncodeChar c =
      UInt8.ofNat (leadMark (places c.val.toNat) + c.val.toNat / 64 ^ places c.val.toNat) ::
        trailing (places c.val.toNat) c.val.toNat := by
  have bound : c.val.toNat < 0x110000 := by
    rcases c.valid with h | h <;> omega
  simp only [String.utf8EncodeChar]
  generalize c.val.toNat = n at bound ⊢
  unfold places
  split_ifs <;>
    simp only [leadMark, trailing, Nat.div_div_eq_div_mul, List.nil_append, List.cons_append,
      Nat.reducePow, Nat.reduceMul, Nat.div_one, Nat.zero_add, List.cons.injEq, and_true] <;>
    congr 1 <;> omega

/-- The encoding of a character comes before that of a greater one, whatever follows. -/
theorem encodeChar_lt {c d : Char} (h : c < d) (x y : List UInt8) :
    String.utf8EncodeChar c ++ x < String.utf8EncodeChar d ++ y := by
  have less : c.val.toNat < d.val.toNat := h
  have bound : d.val.toNat < 0x110000 := by
    rcases d.valid with h | h <;> omega
  rw [encodeChar_eq, encodeChar_eq, List.cons_append, List.cons_append]
  generalize c.val.toNat = m at less ⊢
  generalize d.val.toNat = n at less bound ⊢
  have byte : leadMark (places n) + n / 64 ^ places n < 256 := by
    unfold places
    split_ifs <;> simp only [leadMark] <;> omega
  by_cases same : places m = places n
  · rw [same]
    exact trailing_lt _ _ less byte x y
  · refine cons_ofNat_lt ?_ byte _ _
    unfold places at same ⊢
    split_ifs at same ⊢ <;> simp only [leadMark] <;> omega

/-! ## Texts -/

/-- The bytes of a text come before those of a greater one. -/
theorem bytes_lt {s t : String} (h : s < t) : bytes s < bytes t := by
  rw [bytes_eq_flatMap, bytes_eq_flatMap]
  have chars : s.toList < t.toList := String.lt_iff.mp h
  generalize s.toList = s at chars ⊢
  generalize t.toList = t at chars ⊢
  induction chars with
  | @nil c rest =>
    rw [List.flatMap_nil, List.flatMap_cons, encodeChar_eq]
    exact List.nil_lt_cons _ _
  | rel less => exact encodeChar_lt less _ _
  | cons _ ih => exact List.append_left_lt ih

end ArchAtlas.Text
