import ArchAtlas.Timestamp
import Mathlib.Data.Nat.Digits.Defs

namespace ArchAtlas.Timestamp

/-- A date of the calendar and a time of day. -/
structure Valid (t : Timestamp) : Prop where
  leastYear_le : leastYear ≤ t.year
  year_le : t.year ≤ greatestYear
  one_le_month : 1 ≤ t.month
  month_le : t.month ≤ 12
  one_le_day : 1 ≤ t.day
  day_le : t.day ≤ daysInMonth t.year t.month
  hour_le : t.hour ≤ 23
  minute_le : t.minute ≤ 59
  second_le : t.second ≤ 60
  nanosecond_lt : t.nanosecond < 1000000000

/-! ## Digits -/

/-- Digits that stand for a number. -/
structure Writes (digits : List Char) (n : Nat) : Prop where
  ne_nil : digits ≠ []
  isDigit : ∀ c ∈ digits, c.isDigit = true
  value : Decimal.ofDigits digits = n

theorem padded_writes (width n : Nat) : Writes (padded width n).toList n where
  ne_nil := by simp [padded, Nat.toDigits_ne_nil]
  isDigit := by
    intro c mem
    simp only [padded, String.toList_ofList, List.mem_append, List.mem_replicate] at mem
    rcases mem with ⟨-, rfl⟩ | digit
    · decide
    · exact Nat.isDigit_of_mem_toDigits (by decide) (by decide) digit
  value := by
    have zeros (k : Nat) : Nat.ofDigitChars 10 (List.replicate k '0') 0 = 0 := by
      simp [Nat.ofDigitChars_replicate_zero]
    calc Decimal.ofDigits (padded width n).toList
        = Nat.ofDigitChars 10 (padded width n).toList 0 := rfl
      _ = Nat.ofDigitChars 10 (Nat.toDigits 10 n) 0 := by
        simp only [padded, String.toList_ofList, Nat.ofDigitChars_append, zeros]
      _ = n := Nat.ofDigitChars_ten_toDigits

theorem length_padded {width n : Nat} (wide : 0 < width) (fits : n < 10 ^ width) :
    (padded width n).toList.length = width := by
  have short := (Nat.length_toDigits_le_iff (by decide) wide).mpr fits
  simp only [padded, String.toList_ofList, List.length_append, List.length_replicate]
  omega

variable {digits rest : List Char} {n : Nat}

/-- A number starts with a digit. -/
theorem Writes.eq_cons (written : Writes digits n) :
    ∃ d ds, digits = d :: ds ∧ d.isDigit = true := by
  cases digits with
  | nil => exact absurd rfl written.ne_nil
  | cons d ds => exact ⟨d, ds, rfl, written.isDigit d List.mem_cons_self⟩

theorem Writes.trimStart_append (written : Writes digits n) (rest : List Char) :
    Text.trimStart (digits ++ rest) = digits ++ rest := by
  obtain ⟨d, ds, rfl, digit⟩ := written.eq_cons
  exact List.dropWhile_cons_of_neg (by simp [Text.isBlank_of_isDigit digit])

/-- Digits are read up to the first character that is none, if there may be as many. -/
theorem takeNumber_append {most : Option Nat} (written : Writes digits n)
    (ends : rest.takeWhile Char.isDigit = []) (fits : ∀ m ∈ most, digits.length ≤ m) :
    takeNumber (digits ++ rest) most = .ok (n, rest) := by
  have run : (digits ++ rest).takeWhile Char.isDigit = digits := by
    rw [List.takeWhile_append_of_pos written.isDigit, ends, List.append_nil]
  cases most with
  | none => simp [takeNumber, run, written.ne_nil, written.value]
  | some m =>
    have taken : digits.take m = digits := List.take_of_length_le (fits m rfl)
    simp [takeNumber, run, taken, written.ne_nil, written.value]

theorem takeBounded_padded {least most : Nat} (low : least ≤ n) (high : n ≤ most)
    (two : most < 100) (ends : rest.takeWhile Char.isDigit = []) :
    takeBounded ((padded 2 n).toList ++ rest) least most = .ok (n, rest) := by
  have written := padded_writes 2 n
  have length : (padded 2 n).toList.length = 2 := length_padded (by decide) (by omega)
  have taken : takeNumber ((padded 2 n).toList ++ rest) (some 2) = .ok (n, rest) :=
    takeNumber_append written ends (by simp [length])
  simp [takeBounded, written.trimStart_append, taken, low, high, bind, Except.bind, pure, Except.pure]

theorem takeMark_cons {mark : Char} (seen : Text.isBlank mark = false) (rest : List Char) :
    takeMark mark (mark :: rest) = .ok rest := by
  simp [takeMark, Text.trimStart, List.dropWhile_cons_of_neg, seen]

/-- Digits end at a character that is none. -/
theorem ends_at (c : Char) (rest : List Char) (other : c.isDigit = false) :
    (c :: rest).takeWhile Char.isDigit = [] :=
  List.takeWhile_cons_of_neg (by simp [other])

/-! ## Parts -/

/-- A year with a sign is read to the end of its digits. -/
theorem takeYear_signed {sign : Char} {year : Int} (written : Writes digits year.natAbs)
    (signed : sign = '-' ∧ year < 0 ∨ sign = '+' ∧ 0 ≤ year) (bound : year.natAbs < 0x80000000)
    (ends : rest.takeWhile Char.isDigit = []) :
    takeYear (sign :: digits ++ rest) = .ok (year, rest) := by
  have taken : takeNumber (digits ++ rest) none = .ok (year.natAbs, rest) :=
    takeNumber_append written ends nofun
  rcases signed with ⟨rfl, negative⟩ | ⟨rfl, positive⟩
  · have trimmed : Text.trimStart ('-' :: (digits ++ rest)) = '-' :: (digits ++ rest) :=
      List.dropWhile_cons_of_neg (by decide)
    have value : -(year.natAbs : Int) = year := by omega
    simp only [takeYear, List.cons_append, trimmed, taken, bind, Except.bind, pure, Except.pure, value,
      if_pos bound]
  · have trimmed : Text.trimStart ('+' :: (digits ++ rest)) = '+' :: (digits ++ rest) :=
      List.dropWhile_cons_of_neg (by decide)
    have value : (year.natAbs : Int) = year := by omega
    simp only [takeYear, List.cons_append, trimmed, taken, bind, Except.bind, pure, Except.pure, value,
      if_pos bound]

/-- A year of four digits is told from one with a sign by its first character. -/
theorem takeYear_plain {year : Nat} (written : Writes digits year) (four : digits.length = 4)
    (bound : year < 0x80000000) (ends : rest.takeWhile Char.isDigit = []) :
    takeYear (digits ++ rest) = .ok ((year : Int), rest) := by
  have taken : takeNumber (digits ++ rest) (some 4) = .ok (year, rest) :=
    takeNumber_append written ends (by simp [four])
  have trimmed := written.trimStart_append rest
  obtain ⟨d, ds, rfl, digit⟩ := written.eq_cons
  have unsigned {sign : Char} (other : sign.isDigit = false) : d ≠ sign := by
    rintro rfl
    rw [digit] at other
    cases other
  rw [List.cons_append] at taken trimmed ⊢
  simp only [takeYear, trimmed]
  split
  next same => exact absurd (List.cons.inj same).1 (unsigned rfl)
  next same => exact absurd (List.cons.inj same).1 (unsigned rfl)
  next => simp [taken, bind, Except.bind, pure, Except.pure, bound]

theorem takeYear_render {year : Int} (bound : year.natAbs < 0x80000000)
    (ends : rest.takeWhile Char.isDigit = []) :
    takeYear ((renderYear year).toList ++ rest) = .ok (year, rest) := by
  have written := padded_writes 4 year.natAbs
  by_cases plain : 0 ≤ year ∧ year ≤ 9999
  · have four : (padded 4 year.natAbs).toList.length = 4 := length_padded (by decide) (by omega)
    have text : renderYear year = padded 4 year.natAbs := by simp [renderYear, plain]
    have value : (year.natAbs : Int) = year := by omega
    rw [text, takeYear_plain written four bound ends, value]
  · have text : (renderYear year).toList =
        (if year < 0 then '-' else '+') :: (padded 4 year.natAbs).toList := by
      have signed : ¬ (decide (0 ≤ year) && decide (year ≤ 9999)) = true := by simpa using plain
      rw [renderYear, if_neg signed]
      split <;> simp
    rw [text]
    apply takeYear_signed written _ bound ends
    split
    next negative => exact .inl ⟨rfl, negative⟩
    next positive => exact .inr ⟨rfl, by omega⟩

/-- A fraction of up to nine digits is read to its end, and counts in billionths. -/
theorem takeFraction_padded {width nanosecond : Nat} (wide : 0 < width) (short : width ≤ 9)
    (fits : n < 10 ^ width) (scaled : n * 10 ^ (9 - width) = nanosecond) :
    takeFraction (("." ++ padded width n).toList ++ ['Z']) = .ok (nanosecond, ['Z']) := by
  have length : (padded width n).toList.length = width := length_padded wide fits
  have taken : takeNumber ((padded width n).toList ++ ['Z']) (some 9) = .ok (n, ['Z']) :=
    takeNumber_append (padded_writes width n) rfl (by simp [length, short])
  have used : ((padded width n).toList ++ ['Z']).length - ['Z'].length = width := by simp [length]
  have text : ("." ++ padded width n).toList ++ ['Z'] = '.' :: ((padded width n).toList ++ ['Z']) := by
    simp
  rw [text, takeFraction]
  simp only [taken, used, bind, Except.bind, pure, Except.pure, Nat.pow_eq, scaled]
  rfl

theorem takeFraction_render {nanosecond : Nat} (bound : nanosecond < 1000000000) :
    takeFraction ((renderFraction nanosecond).toList ++ ['Z']) = .ok (nanosecond, ['Z']) := by
  unfold renderFraction
  split
  next zero =>
    rw [zero]
    rfl
  split
  next millis => exact takeFraction_padded (by decide) (by decide) (by omega) (by omega)
  split
  next micros => exact takeFraction_padded (by decide) (by decide) (by omega) (by omega)
  next => exact takeFraction_padded (by decide) (by decide) (by omega) (by omega)

theorem render_toList (t : Timestamp) : t.render.toList =
    (renderYear t.year).toList ++ '-' :: ((padded 2 t.month).toList ++ '-' ::
      ((padded 2 t.day).toList ++ 'T' :: ((padded 2 t.hour).toList ++ ':' ::
      ((padded 2 t.minute).toList ++ ':' :: ((padded 2 t.second).toList ++
      ((renderFraction t.nanosecond).toList ++ ['Z'])))))) := by
  simp [render]

theorem daysInMonth_le (year : Int) (month : Nat) : daysInMonth year month ≤ 31 := by
  unfold daysInMonth
  split
  · split <;> omega
  · split <;> omega

theorem ends_at_fraction (nanosecond : Nat) :
    ((renderFraction nanosecond).toList ++ ['Z']).takeWhile Char.isDigit = [] := by
  unfold renderFraction
  split
  · rfl
  · split
    · simp
    · split <;> simp

/-- A point in time is read again from its text. -/
theorem parse_render {t : Timestamp} (valid : t.Valid) : parse t.render = .ok t := by
  obtain ⟨leastYear_le, year_le, one_le_month, month_le, one_le_day, day_le, hour_le, minute_le,
    second_le, nanosecond_lt⟩ := valid
  have year : t.year.natAbs < 0x80000000 := by
    simp only [leastYear, greatestYear] at leastYear_le year_le
    omega
  have day : t.day ≤ 31 := day_le.trans (daysInMonth_le t.year t.month)
  have readYear (rest : List Char) := takeYear_render year (ends_at '-' rest rfl)
  have readMonth (rest : List Char) :=
    takeBounded_padded one_le_month month_le (by decide) (ends_at '-' rest rfl)
  have readDay (rest : List Char) :=
    takeBounded_padded one_le_day day (by decide) (ends_at 'T' rest rfl)
  have readHour (rest : List Char) :=
    takeBounded_padded (Nat.zero_le t.hour) hour_le (by decide) (ends_at ':' rest rfl)
  have readMinute (rest : List Char) :=
    takeBounded_padded (Nat.zero_le t.minute) minute_le (by decide) (ends_at ':' rest rfl)
  have readSecond :=
    takeBounded_padded (Nat.zero_le t.second) second_le (by decide) (ends_at_fraction t.nanosecond)
  have readFraction := takeFraction_render nanosecond_lt
  have readZone : takeOffset (Text.trimStart ['Z']) = .ok (0, []) := rfl
  have dash (rest : List Char) : takeMark '-' ('-' :: rest) = .ok rest := takeMark_cons rfl rest
  have colon (rest : List Char) : takeMark ':' (':' :: rest) = .ok rest := takeMark_cons rfl rest
  -- The offset is zero, so the date is not moved and stays within the years that there are.
  have inYears : ¬ t.year < leastYear ∧ ¬ greatestYear < t.year := by omega
  simp only [parse, render_toList, bind, Except.bind, readYear, dash, readMonth, readDay,
    takeSeparator, readHour, colon, readMinute, readSecond, readFraction, readZone]
  simp [Text.trimStart, toUtc, inYears, day_le.not_gt, pure, Except.pure]

end ArchAtlas.Timestamp
