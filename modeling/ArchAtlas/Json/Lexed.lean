import ArchAtlas.Json.Basic
import ArchAtlas.Decimal.Reading

/-!
JSON text. `Lexed` is what the grammar of JSON makes of a text: its structure is resolved, while
numbers and strings are still as written. A number or a string can be grammatical and yet denote
nothing (a number beyond the largest double, half of a surrogate pair), so giving them a value is a
second step, `Lexed.number?` and `Lexed.string?`.

`Json.parse?` reads a whole text as a value.
-/

namespace ArchAtlas.Json

/-- A grammatical JSON text. -/
inductive Lexed where
  | null
  | bool (value : Bool)
  | number (lexeme : List Char)
  | string (lexeme : List Char)
  | arr (items : List Lexed)
  | obj (members : List (List Char × Lexed))
  deriving Repr, Inhabited

namespace Lexed

/-- Blanks between the tokens of JSON text. -/
def isSpace (c : Char) : Bool :=
  c = ' ' || c = '\t' || c = '\n' || c = '\r'

def skipSpace (s : List Char) : List Char :=
  s.dropWhile isSpace

def isHexDigit (c : Char) : Bool :=
  c.isDigit || ('a' ≤ c && c ≤ 'f') || ('A' ≤ c && c ≤ 'F')

/-- The rest of a string after its opening quote: what is written in it, and what follows the closing
quote. Control characters and unknown escapes end the reading. -/
def takeString? : List Char → Option (List Char × List Char)
  | [] => none
  | '"' :: rest => some ([], rest)
  | '\\' :: 'u' :: a :: b :: c :: d :: rest =>
    if isHexDigit a && isHexDigit b && isHexDigit c && isHexDigit d then
      (takeString? rest).map fun (u, v) => ('\\' :: 'u' :: a :: b :: c :: d :: u, v)
    else none
  | '\\' :: e :: rest =>
    if e ∈ ['"', '\\', '/', 'b', 'f', 'n', 'r', 't'] then
      (takeString? rest).map fun (u, v) => ('\\' :: e :: u, v)
    else none
  | c :: rest =>
    if c = '\\' || c.toNat < 0x20 then none else (takeString? rest).map fun (u, v) => (c :: u, v)

/-- The part of a number before point and exponent: no digit follows a leading zero. -/
def takeWhole? (s : List Char) : Option (List Char × List Char) :=
  match Decimal.takeDigits s with
  | ([], _) => none
  | ('0' :: _ :: _, _) => none
  | (digits, rest) => some (digits, rest)

/-- A point with at least one digit after it, or nothing. -/
def takeFraction? (s : List Char) : Option (List Char × List Char) :=
  match s with
  | '.' :: rest =>
    match Decimal.takeDigits rest with
    | ([], _) => none
    | (digits, rest) => some ('.' :: digits, rest)
  | _ => some ([], s)

/-- A number at the start of a text, and the rest. -/
def takeNumber? (s : List Char) : Option (List Char × List Char) := do
  let (sign, body) : List Char × List Char :=
    match s with
    | '-' :: r => (['-'], r)
    | r => ([], r)
  let (whole, afterWhole) ← takeWhole? body
  let (fraction, afterFraction) ← takeFraction? afterWhole
  let (_, rest) ← Decimal.takeExponent? afterFraction
  let exponent := afterFraction.take (afterFraction.length - rest.length)
  return (sign ++ whole ++ fraction ++ exponent, rest)

mutual

/-- A value at the start of a text, and the rest. Every call uses up a character or is followed by one
that does, so fuel of twice the length is never short. -/
def takeValue? : (fuel : Nat) → List Char → Option (Lexed × List Char)
  | 0, _ => none
  | fuel + 1, s =>
    match skipSpace s with
    | 'n' :: 'u' :: 'l' :: 'l' :: rest => some (.null, rest)
    | 't' :: 'r' :: 'u' :: 'e' :: rest => some (.bool true, rest)
    | 'f' :: 'a' :: 'l' :: 's' :: 'e' :: rest => some (.bool false, rest)
    | '"' :: rest => (takeString? rest).map fun (u, v) => (.string u, v)
    | '[' :: rest =>
      match skipSpace rest with
      | ']' :: rest => some (.arr [], rest)
      | rest => (takeItems? fuel rest).map fun (items, v) => (.arr items, v)
    | '{' :: rest =>
      match skipSpace rest with
      | '}' :: rest => some (.obj [], rest)
      | rest => (takeMembers? fuel rest).map fun (members, v) => (.obj members, v)
    | rest => (takeNumber? rest).map fun (u, v) => (.number u, v)

/-- The items of an array up to and with its closing bracket. -/
def takeItems? : (fuel : Nat) → List Char → Option (List Lexed × List Char)
  | 0, _ => none
  | fuel + 1, s =>
    match takeValue? fuel s with
    | none => none
    | some (item, rest) =>
      match skipSpace rest with
      | ']' :: rest => some ([item], rest)
      | ',' :: rest => (takeItems? fuel rest).map fun (items, v) => (item :: items, v)
      | _ => none

/-- The members of an object up to and with its closing brace. -/
def takeMembers? : (fuel : Nat) → List Char → Option (List (List Char × Lexed) × List Char)
  | 0, _ => none
  | fuel + 1, s =>
    match skipSpace s with
    | '"' :: rest =>
      match takeString? rest with
      | none => none
      | some (key, rest) =>
        match skipSpace rest with
        | ':' :: rest =>
          match takeValue? fuel rest with
          | none => none
          | some (value, rest) =>
            match skipSpace rest with
            | '}' :: rest => some ([(key, value)], rest)
            | ',' :: rest =>
              (takeMembers? fuel rest).map fun (members, v) => ((key, value) :: members, v)
            | _ => none
        | _ => none
    | _ => none

end

/-- Reads a whole text: one value with nothing but blanks around it. -/
def parse? (text : String) : Option Lexed :=
  let s := text.toList
  match takeValue? (2 * s.length + 2) s with
  | some (value, rest) => if (skipSpace rest).isEmpty then some value else none
  | none => none

def hexValue (c : Char) : Nat :=
  if c.isDigit then c.toNat - '0'.toNat
  else if 'a' ≤ c then c.toNat - 'a'.toNat + 10
  else c.toNat - 'A'.toNat + 10

def unit16 (a b c d : Char) : Nat :=
  ((hexValue a * 16 + hexValue b) * 16 + hexValue c) * 16 + hexValue d

/-- The character that a one-letter escape stands for. -/
def escaped (e : Char) : Char :=
  match e with
  | 'b' => '\x08'
  | 'f' => '\x0c'
  | 'n' => '\n'
  | 'r' => '\r'
  | 't' => '\t'
  | c => c

/-- The characters that a grammatical string stands for. Escaped units of a surrogate pair count only
together. -/
def characters? : List Char → Option (List Char)
  | [] => some []
  | '\\' :: 'u' :: a :: b :: c :: d :: rest =>
    let unit := unit16 a b c d
    if unit < 0xD800 || 0xDFFF < unit then (characters? rest).map (Char.ofNat unit :: ·)
    else
      match rest with
      | '\\' :: 'u' :: e :: f :: g :: h :: rest =>
        let low := unit16 e f g h
        if unit ≤ 0xDBFF && 0xDC00 ≤ low && low ≤ 0xDFFF then
          (characters? rest).map
            (Char.ofNat (0x10000 + (unit - 0xD800) * 0x400 + (low - 0xDC00)) :: ·)
        else none
      | _ => none
  | '\\' :: e :: rest => (characters? rest).map (escaped e :: ·)
  | c :: rest => (characters? rest).map (c :: ·)

/-- The text that a grammatical string stands for. -/
def string? (lexeme : List Char) : Option String :=
  (characters? lexeme).map String.ofList

/-- The number that a grammatical number stands for: a whole number when it is written without point
and exponent and fits 64 bits, with or without sign; a floating point number otherwise, and for a
negative zero. -/
def number? (lexeme : List Char) : Option Json := do
  let x ← Decimal.Numeral.parse? lexeme
  let float := x.scaled?.map Json.float
  if lexeme.any fun c => c = '.' || c = 'e' || c = 'E' then float
  else
    let n := Decimal.ofDigits x.whole
    if x.negative then if 0 < n && n ≤ 0x8000000000000000 then some (.int (-n)) else float
    else if n < 0x10000000000000000 then some (.int n) else float

mutual

/-- The value of a grammatical text in which at most `depth` containers are nested. -/
def toJson? (depth : Nat) : Lexed → Option Json
  | .null => some .null
  | .bool b => some (.bool b)
  | .number lexeme => number? lexeme
  | .string lexeme => (string? lexeme).map .str
  | .arr items =>
    match depth with
    | 0 => none
    | depth + 1 => (itemsToJson? depth items).map .arr
  | .obj members =>
    match depth with
    | 0 => none
    | depth + 1 => (membersToJson? depth members).map .ofMembers

def itemsToJson? (depth : Nat) : List Lexed → Option (List Json)
  | [] => some []
  | item :: items =>
    match toJson? depth item, itemsToJson? depth items with
    | some v, some vs => some (v :: vs)
    | _, _ => none

def membersToJson? (depth : Nat) : List (List Char × Lexed) → Option (List (String × Json))
  | [] => some []
  | (key, item) :: members =>
    match string? key, toJson? depth item, membersToJson? depth members with
    | some k, some v, some vs => some ((k, v) :: vs)
    | _, _, _ => none

end

end Lexed

/-- The greatest number of nested containers in a text that is read as a value. -/
def maxDepth : Nat := 127

/-- Reads a text as a value. -/
def parse? (text : String) : Option Json :=
  (Lexed.parse? text).bind (Lexed.toJson? maxDepth)

end ArchAtlas.Json
