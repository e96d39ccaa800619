import ArchAtlas.Text.Blank
import ArchAtlas.Decimal.Reading

/-!
Points in time as RFC 3339 writes them. `Timestamp.parse` reads a date, a separator, a time and an
offset, with blanks allowed between the parts, and converts to UTC; `Timestamp.render` writes UTC with
a `Z` and with as few groups of three fraction digits as the nanoseconds need.
-/

namespace ArchAtlas

/-- A point in time, as its calendar date and time of day in UTC. The sixtieth second is a leap
second. -/
structure Timestamp where
  year : Int
  month : Nat
  day : Nat
  hour : Nat
  minute : Nat
  second : Nat
  nanosecond : Nat
  deriving DecidableEq, Repr, Inhabited

namespace Timestamp

/-- The start of 1970. -/
def epoch : Timestamp := ⟨1970, 1, 1, 0, 0, 0, 0⟩

/-- Why a text is no timestamp. -/
inductive Fault where
  | outOfRange
  | impossible
  | invalid
  | tooShort
  | tooLong
  deriving DecidableEq, Repr

def Fault.message : Fault → String
  | .outOfRange => "input is out of range"
  | .impossible => "no possible date and time matching input"
  | .invalid => "input contains invalid characters"
  | .tooShort => "premature end of input"
  | .tooLong => "trailing input"

def isLeapYear (year : Int) : Bool :=
  year % 4 = 0 && (year % 100 ≠ 0 || year % 400 = 0)

def daysInMonth (year : Int) (month : Nat) : Nat :=
  if month = 2 then if isLeapYear year then 29 else 28
  else if month = 4 || month = 6 || month = 9 || month = 11 then 30
  else 31

def leastYear : Int := -262143

def greatestYear : Int := 262142

/-- The digits at the start of a text as a number, at most `most` of them. There must be one. -/
def takeNumber (s : List Char) (most : Option Nat) : Except Fault (Nat × List Char) :=
  let digits := s.takeWhile Char.isDigit
  let digits := match most with
    | some n => digits.take n
    | none => digits
  if s.isEmpty then .error .tooShort
  else if digits.isEmpty then .error .invalid
  else .ok (Decimal.ofDigits digits, s.drop digits.length)

/-- A number of at most two digits after optional blanks, within bounds. -/
def takeBounded (s : List Char) (least most : Nat) : Except Fault (Nat × List Char) := do
  let (n, rest) ← takeNumber (Text.trimStart s) (some 2)
  if least ≤ n && n ≤ most then return (n, rest) else throw .outOfRange

/-- A year: four digits, or a sign and any number of digits. -/
def takeYear (s : List Char) : Except Fault (Int × List Char) := do
  let (year, rest) ← match Text.trimStart s with
    | '-' :: r => do
      let (n, rest) ← takeNumber r none
      pure (-(n : Int), rest)
    | '+' :: r => do
      let (n, rest) ← takeNumber r none
      pure ((n : Int), rest)
    | r => do
      let (n, rest) ← takeNumber r (some 4)
      pure ((n : Int), rest)
  if year.natAbs < 0x80000000 then return (year, rest) else throw .outOfRange

/-- A mark after optional blanks. -/
def takeMark (mark : Char) (s : List Char) : Except Fault (List Char) :=
  match Text.trimStart s with
  | [] => .error .tooShort
  | c :: rest => if c = mark then .ok rest else .error .invalid

/-- The separator of date and time. -/
def takeSeparator (s : List Char) : Except Fault (List Char) :=
  match s with
  | 'T' :: rest | 't' :: rest | ' ' :: rest => .ok rest
  | [] => .error .tooShort
  | _ => .error .invalid

/-- An optional fraction of a second, of which nine digits count. -/
def takeFraction (s : List Char) : Except Fault (Nat × List Char) :=
  match s with
  | '.' :: rest => do
    let (n, after) ← takeNumber rest (some 9)
    let used := rest.length - after.length
    return (n * Nat.pow 10 (9 - used), after.dropWhile Char.isDigit)
  | _ => .ok (0, s)

/-- Two digits of an offset. -/
def takePair (s : List Char) : Except Fault (Nat × Nat × List Char) :=
  match s with
  | a :: b :: rest =>
    if a.isDigit && b.isDigit then .ok (a.toNat - '0'.toNat, b.toNat - '0'.toNat, rest)
    else .error .invalid
  | _ => .error .tooShort

/-- The seconds east of UTC: `Z`, `UTC`, or a sign with hours and minutes. -/
def takeOffset (s : List Char) : Except Fault (Int × List Char) :=
  match s with
  | 'Z' :: rest | 'z' :: rest => .ok (0, rest)
  | [] => .error .tooShort
  | sign :: rest =>
    if (s.take 3).map Char.toUpper = ['U', 'T', 'C'] then .ok (0, s.drop 3)
    else if sign ≠ '+' && sign ≠ '-' && sign ≠ '−' then .error .invalid
    else do
      let (h₁, h₂, rest) ← takePair rest
      let rest := rest.dropWhile fun c => c = ':' || Text.isBlank c
      let (m₁, m₂, rest) ← takePair rest
      if 6 ≤ m₁ then throw .outOfRange
      let seconds : Int := ((10 * h₁ + h₂) * 60 + (10 * m₁ + m₂)) * 60
      return (if sign = '+' then seconds else -seconds, rest)

/-- The day after. -/
def nextDay (t : Timestamp) : Timestamp :=
  if t.day < daysInMonth t.year t.month then { t with day := t.day + 1 }
  else if t.month < 12 then { t with month := t.month + 1, day := 1 }
  else { t with year := t.year + 1, month := 1, day := 1 }

/-- The day before. -/
def previousDay (t : Timestamp) : Timestamp :=
  if 1 < t.day then { t with day := t.day - 1 }
  else if 1 < t.month then
    { t with month := t.month - 1, day := daysInMonth t.year (t.month - 1) }
  else { t with year := t.year - 1, month := 12, day := 31 }

/-- The same date and time of day read at an offset of whole minutes, in UTC. -/
def toUtc (t : Timestamp) (offset : Int) : Timestamp :=
  if offset = 0 then t
  else
    let minutes : Int := (60 * t.hour + t.minute : Nat) - offset / 60
    let moved := if minutes < 0 then t.previousDay else if 1440 ≤ minutes then t.nextDay else t
    let ofDay := (minutes % 1440).toNat
    { moved with hour := ofDay / 60, minute := ofDay % 60 }

/-- Reads a whole text as a point in time. -/
def parse (text : String) : Except Fault Timestamp := do
  let (year, s) ← takeYear text.toList
  let s ← takeMark '-' s
  let (month, s) ← takeBounded s 1 12
  let s ← takeMark '-' s
  let (day, s) ← takeBounded s 1 31
  let s ← takeSeparator s
  let (hour, s) ← takeBounded s 0 23
  let s ← takeMark ':' s
  let (minute, s) ← takeBounded s 0 59
  let s ← takeMark ':' s
  let (second, s) ← takeBounded s 0 60
  let (nanosecond, s) ← takeFraction s
  let (offset, s) ← takeOffset (Text.trimStart s)
  if (Text.trimStart s).isEmpty = false then throw .tooLong
  if year < leastYear || greatestYear < year || daysInMonth year month < day
      || 86400 ≤ offset.natAbs then throw .outOfRange
  let t := toUtc ⟨year, month, day, hour, minute, second, nanosecond⟩ offset
  if t.year < leastYear || greatestYear < t.year then throw .impossible
  return t

/-- A number with leading zeros up to a width. -/
def padded (width n : Nat) : String :=
  let digits := Nat.toDigits 10 n
  String.ofList (List.replicate (width - digits.length) '0' ++ digits)

/-- A year: four digits, with a sign beyond the years 0 to 9999. -/
def renderYear (year : Int) : String :=
  if 0 ≤ year && year ≤ 9999 then padded 4 year.natAbs
  else (if year < 0 then "-" else "+") ++ padded 4 year.natAbs

/-- The fraction of a second in groups of three digits, as many as are needed. -/
def renderFraction (nanosecond : Nat) : String :=
  if nanosecond = 0 then ""
  else if nanosecond % 1000000 = 0 then "." ++ padded 3 (nanosecond / 1000000)
  else if nanosecond % 1000 = 0 then "." ++ padded 6 (nanosecond / 1000)
  else "." ++ padded 9 nanosecond

/-- The text of a point in time. -/
def render (t : Timestamp) : String :=
  renderYear t.year ++ "-" ++ padded 2 t.month ++ "-" ++ padded 2 t.day ++ "T" ++
    padded 2 t.hour ++ ":" ++ padded 2 t.minute ++ ":" ++ padded 2 t.second ++
    renderFraction t.nanosecond ++ "Z"

end Timestamp

end ArchAtlas
