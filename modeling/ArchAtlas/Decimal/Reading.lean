import ArchAtlas.Decimal.Shortest

/-!
Reading decimal text. `Numeral` is a number as written: sign, digits before and after the point, and
exponent. `Numeral.nearest` is the double nearest to it; `Numeral.scaled?` is the coarser reading of
JSON text, which scales a 64-bit significand by a single power of ten.
-/

namespace ArchAtlas.Decimal

/-- A number as written. -/
structure Numeral where
  negative : Bool
  whole : List Char
  fraction : List Char
  exponent : Int
  deriving DecidableEq, Repr

/-- The value of a list of decimal digits. -/
def ofDigits (digits : List Char) : Nat :=
  digits.foldl (fun n c => 10 * n + (c.toNat - '0'.toNat)) 0

/-- The longest run of decimal digits at the start, and the rest. -/
def takeDigits (s : List Char) : List Char × List Char :=
  (s.takeWhile Char.isDigit, s.dropWhile Char.isDigit)

/-- An exponent mark with its exponent; `none` when the mark is not followed by one, and zero when
there is no mark. -/
def takeExponent? (s : List Char) : Option (Int × List Char) :=
  match s with
  | 'e' :: rest | 'E' :: rest =>
    let (negative, rest) : Bool × List Char :=
      match rest with
      | '+' :: r => (false, r)
      | '-' :: r => (true, r)
      | r => (false, r)
    match takeDigits rest with
    | ([], _) => none
    | (digits, r) => some (if negative then -(ofDigits digits : Int) else ofDigits digits, r)
  | _ => some (0, s)

/-- Reads a whole text as a number: digits with an optional point among or around them, and an
optional exponent. -/
def Numeral.parse? (s : List Char) : Option Numeral :=
  let (negative, s) : Bool × List Char :=
    match s with
    | '+' :: r => (false, r)
    | '-' :: r => (true, r)
    | r => (false, r)
  let (whole, s) := takeDigits s
  let (fraction, s) : List Char × List Char :=
    match s with
    | '.' :: r => takeDigits r
    | r => ([], r)
  if whole.isEmpty && fraction.isEmpty then none
  else
    match takeExponent? s with
    | some (exponent, []) => some ⟨negative, whole, fraction, exponent⟩
    | _ => none

/-- The double nearest to `n · 10 ^ e`. Outside the range of doubles the exponent is cut, so that no
large power is computed. -/
def nearest (n : Nat) (e : Int) : Float :=
  if n = 0 then 0
  else
    let top := (Nat.toDigits 10 n).length + e
    if 400 < top then Float.ofScientific 1 false 400
    else if top < -400 then 0
    else Float.ofScientific n (e < 0) e.natAbs

/-- The double nearest to a number as written. -/
def Numeral.nearest (x : Numeral) : Float :=
  let magnitude := Decimal.nearest (ofDigits (x.whole ++ x.fraction))
    (x.exponent - x.fraction.length)
  if x.negative then -magnitude else magnitude

/-- The power of ten nearest to `10 ^ e`. -/
def power (e : Nat) : Float :=
  Float.ofScientific 1 false e

/-- Division by `10 ^ e` in steps of at most `10 ^ 308`. -/
def scaleDown (f : Float) (e : Nat) : Float :=
  if e ≤ 308 then f / power e
  else if f == 0 then f
  else scaleDown (f / power 308) (e - 308)
termination_by e

/-- A significand scaled by a power of ten; `none` beyond the largest double. -/
def scale? (significand : Nat) (e : Int) : Option Float :=
  let f := Float.ofNat significand
  if e < 0 then some (scaleDown f e.natAbs)
  else if 308 < e then if significand = 0 then some 0 else none
  else
    let g := f * power e.natAbs
    if g.isInf then none else some g

/-- Appends digits to a significand until one would take it beyond 64 bits; also what is left. -/
def accumulate (significand : Nat) : List Char → Nat × List Char
  | [] => (significand, [])
  | c :: rest =>
    let next := 10 * significand + (c.toNat - '0'.toNat)
    if next < 0x10000000000000000 then accumulate next rest else (significand, c :: rest)

/-- The reading of JSON text: as many leading digits as fit in 64 bits, scaled by one power of ten;
`none` beyond the largest double. -/
def Numeral.scaled? (x : Numeral) : Option Float :=
  let (head, dropped) := accumulate 0 x.whole
  let (significand, unread) := accumulate head x.fraction
  let exponent := x.exponent + dropped.length - (x.fraction.length - unread.length : Nat)
  (scale? significand exponent).map fun f => if x.negative then -f else f

end ArchAtlas.Decimal
