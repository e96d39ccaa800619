/-!
The decimal with the fewest digits that reads back as a given binary fraction.

A finite double is `mantissa · 2 ^ exponent`. The reals that round to it form an interval, closed
exactly when the mantissa is even. `Binary.shortest` looks, for one digit, two digits and so on, at
the value's two neighbours on that decimal grid and takes the first that lies in the interval, the
nearer of two, and of two equally near the one with the even last digit. All arithmetic is exact.
-/

namespace ArchAtlas

/-- The number `digits · 10 ^ exponent`. -/
structure Decimal where
  digits : Nat
  exponent : Int
  deriving DecidableEq, Repr

namespace Decimal

/-- The magnitude of a finite double, `mantissa · 2 ^ exponent`. The mark `narrow` is set where the
next smaller double is only half as far away as the next larger one. -/
structure Binary where
  mantissa : Nat
  exponent : Int
  narrow : Bool
  deriving DecidableEq, Repr

/-- The magnitude that the low 63 bits of a finite double stand for. -/
def Binary.ofBits (bits : UInt64) : Binary :=
  let scale : Nat := bits.toNat / Nat.pow 2 52 % Nat.pow 2 11
  let fraction : Nat := bits.toNat % Nat.pow 2 52
  if scale = 0 then ⟨fraction, -1074, false⟩
  else ⟨Nat.pow 2 52 + fraction, (scale : Int) - 1075, fraction = 0 && 1 < scale⟩

/-- The reals that round to a double, over a common denominator: `low`, `value` and `high` are the
numerators of the interval's ends and of the double itself. -/
structure Interval where
  low : Nat
  value : Nat
  high : Nat
  denominator : Nat
  closed : Bool
  deriving DecidableEq, Repr

def Binary.interval (b : Binary) : Interval :=
  let unit := Nat.pow 2 b.exponent.toNat
  let value := 4 * b.mantissa * unit
  { low := value - (if b.narrow then unit else 2 * unit)
    value
    high := value + 2 * unit
    denominator := 4 * Nat.pow 2 (-b.exponent).toNat
    closed := b.mantissa % 2 = 0 }

/-- The least `j`, counted from `start`, with `num · 10 ^ j ≥ den`, looked for in `fuel` steps. -/
def scaleUp (num den : Nat) : (fuel start : Nat) → Nat
  | 0, start => start
  | fuel + 1, start => if den ≤ num * Nat.pow 10 start then start else scaleUp num den fuel (start + 1)

/-- The `p` with `10 ^ (p - 1) ≤ num / den < 10 ^ p`, for a positive quotient. No double needs more
than 324 steps. -/
def magnitude (num den : Nat) : Int :=
  if den ≤ num then (Nat.toDigits 10 (num / den)).length
  else 1 - (scaleUp num den 400 1 : Int)

/-- Whether the grid point `n` lies in the interval, on the grid of spacing `down / up`. -/
def Interval.holds (i : Interval) (up down n : Nat) : Bool :=
  let point := n * (i.denominator * down)
  if i.closed then i.low * up ≤ point && point ≤ i.high * up
  else i.low * up < point && point < i.high * up

/-- The neighbour of the value on a decimal grid that lies in the interval, if one does. -/
def Interval.onGrid? (i : Interval) (up down : Nat) : Option Nat :=
  let scaled := i.value * up
  let step := i.denominator * down
  let n := scaled / step
  let below := scaled - n * step
  let above := (n + 1) * step - scaled
  match i.holds up down n, i.holds up down (n + 1) with
  | true, true =>
    if below < above then some n
    else if above < below then some (n + 1)
    else if n % 2 = 0 then some n else some (n + 1)
  | true, false => some n
  | false, true => some (n + 1)
  | false, false => none

/-- The point on the first grid with `count`, `count + 1`, … digits that has one in the interval. A
point that rounds up to the next power of ten is written with a single digit. -/
def Interval.search (i : Interval) (p : Int) : (fuel count : Nat) → Decimal
  | 0, _ => ⟨0, 0⟩
  | fuel + 1, count =>
    let exponent := p - count
    match i.onGrid? (Nat.pow 10 (-exponent).toNat) (Nat.pow 10 exponent.toNat) with
    | some n => if n = Nat.pow 10 count then ⟨1, p⟩ else ⟨n, exponent⟩
    | none => i.search p fuel (count + 1)

/-- The shortest decimal that reads back as the given magnitude; seventeen digits always do. -/
def Binary.shortest (b : Binary) : Decimal :=
  if b.mantissa = 0 then ⟨0, 0⟩
  else
    let i := b.interval
    i.search (magnitude i.value i.denominator) 17 1

end Decimal

end ArchAtlas
