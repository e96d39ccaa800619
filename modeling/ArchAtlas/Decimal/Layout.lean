import ArchAtlas.Decimal.Shortest

/-!
How a number is laid out as text. A `Layout` says where positional notation ends, whether a whole
number keeps a `.0`, and how the values that are no numbers are spelled; `Layout.render` does the
rest for every layout.
-/

namespace ArchAtlas.Decimal

/-- The choices of a number format. With the point after the first `k` digits of a number, positional
notation is used for `least < k ≤ most`; a missing bound is no bound. -/
structure Layout where
  least : Option Int
  most : Option Int
  pointZero : Bool
  infinity : String
  notANumber : String
  deriving DecidableEq, Repr

/-- Numbers in JSON text: a fraction or an exponent always, an exponent from `1e16` and below `1e-5`.
JSON has no text for the other values. -/
def Layout.json : Layout :=
  ⟨some (-5), some 16, true, "null", "null"⟩

/-- Numbers in YAML text: as in JSON, with names for the values that are no numbers. -/
def Layout.yaml : Layout :=
  ⟨some (-5), some 16, true, ".inf", ".nan"⟩

/-- Numbers in range messages: never an exponent, and no fraction for a whole number. -/
def Layout.plain : Layout :=
  ⟨none, none, false, "inf", "NaN"⟩

/-- Numbers in type messages: never an exponent, always a fraction. -/
def Layout.pointed : Layout :=
  ⟨none, none, true, "inf", "NaN"⟩

/-- Whether positional notation is used when the point stands after the first `k` digits. -/
def Layout.isPositional (l : Layout) (k : Int) : Bool :=
  (l.least.all fun a => a < k) && (l.most.all fun b => k ≤ b)

/-- A number written with the point after the first `k` of its digits. -/
def Layout.positional (l : Layout) (digits : List Char) (k : Int) : List Char :=
  if k ≤ 0 then '0' :: '.' :: List.replicate (-k).toNat '0' ++ digits
  else if digits.length ≤ k.toNat then
    digits ++ List.replicate (k.toNat - digits.length) '0' ++ (if l.pointZero then ['.', '0'] else [])
  else digits.take k.toNat ++ '.' :: digits.drop k.toNat

/-- A number written with one digit before the point and an exponent. -/
def scientific (digits : List Char) (k : Int) : List Char :=
  let exponent := (toString (k - 1)).toList
  match digits with
  | [] => []
  | [d] => d :: 'e' :: exponent
  | d :: rest => d :: '.' :: rest ++ 'e' :: exponent

/-- The text of a decimal. -/
def Layout.magnitude (l : Layout) (d : Decimal) : List Char :=
  if d.digits = 0 then if l.pointZero then ['0', '.', '0'] else ['0']
  else
    let digits := Nat.toDigits 10 d.digits
    let k := (digits.length : Int) + d.exponent
    if l.isPositional k then l.positional digits k else scientific digits k

/-- The text of a double: its sign and its shortest decimal. -/
def Layout.render (l : Layout) (x : Float) : String :=
  if x.isNaN then l.notANumber
  else
    let sign := if x.toBits.toNat / Nat.pow 2 63 = 1 then "-" else ""
    if x.isInf then sign ++ l.infinity
    else sign ++ String.ofList (l.magnitude (Binary.ofBits x.toBits).shortest)

end ArchAtlas.Decimal
