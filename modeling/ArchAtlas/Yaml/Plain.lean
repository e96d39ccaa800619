import ArchAtlas.Decimal.Reading
import ArchAtlas.Yaml.Cursor

/-!
What a plain scalar may stand for besides its text: nothing, a flag, a whole number, a number.
-/

namespace ArchAtlas.Yaml.Plain

def isNull (s : String) : Bool :=
  ["null", "Null", "NULL", "~"].contains s

def flag? (s : String) : Option Bool :=
  if ["true", "True", "TRUE"].contains s then some true
  else if ["false", "False", "FALSE"].contains s then some false
  else none

def isSign (c : Char) : Bool :=
  c = '+' || c = '-'

/-- Digits that are no number because a zero leads them. -/
def isZeroLed (s : List Char) : Bool :=
  let digits := match s with
    | c :: rest => if isSign c then rest else s
    | [] => s
  match digits with
  | '0' :: rest => !rest.isEmpty && rest.all Char.isDigit
  | _ => false

/-- The value of digits in a base, below a bound. -/
def digits? (base bound : Nat) (s : List Char) : Option Nat :=
  let n := ofHexDigits
  let fits := s.all fun c => isHexDigit c && n [c] < base
  let value := s.foldl (fun v c => base * v + n [c]) 0
  if s.isEmpty || !fits || bound ≤ value then none else some value

/-- The bases that are written in front of a number. -/
def bases : List (List Char × Nat) :=
  [(['0', 'x'], 16), (['0', 'o'], 8), (['0', 'b'], 2)]

/-- Digits behind their base. -/
def based? (bound : Nat) (s : List Char) : Option Nat :=
  bases.findSome? fun (mark, base) =>
    if mark.isPrefixOf s then digits? base bound (s.drop mark.length) else none

/-- A whole number below a bound, perhaps behind a plus sign, in base ten or behind its base. -/
def word? (bound : Nat) (s : List Char) : Option Nat :=
  let unsigned := match s with
    | '+' :: rest => rest
    | _ => s
  match based? bound unsigned with
  | some n => some n
  | none => if isZeroLed s then none else digits? 10 bound unsigned

/-- A negative whole number behind its base, no less than `-bound`. -/
def isNegativeBased (bound : Nat) (s : List Char) : Bool :=
  match s with
  | '-' :: rest => (based? (bound + 1) rest).isSome
  | _ => false

def infinity : Float := 1.0 / 0.0

/-- A number, with the names of the values that are none. -/
def real? (s : List Char) : Option Float :=
  let (plus, unsigned) : Bool × List Char := match s with
    | '+' :: rest => (true, rest)
    | _ => (false, s)
  let named (names : List String) (t : List Char) : Bool := names.contains (String.ofList t)
  if plus && unsigned.head?.any isSign then none
  else if named [".inf", ".Inf", ".INF"] unsigned then some infinity
  else if named ["-.inf", "-.Inf", "-.INF"] s then some (-infinity)
  else if named [".nan", ".NaN", ".NAN"] s then some (infinity - infinity)
  else
    match Decimal.Numeral.parse? unsigned with
    | some x => if x.nearest.isFinite then some x.nearest else none
    | none => none

/-- Whether a plain scalar with this text would stand for its text and nothing else. -/
def isText (text : String) : Bool :=
  let s := text.toList
  !(text = "" || isNull text || (flag? text).isSome || (word? (Nat.pow 2 128) s).isSome ||
    isNegativeBased (Nat.pow 2 127) s || isZeroLed s || (real? s).isSome)

end ArchAtlas.Yaml.Plain
