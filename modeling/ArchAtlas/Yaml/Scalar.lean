import ArchAtlas.Yaml.Cursor

/-!
The scalars of YAML text: quoted, plain, and blocks. Each reader returns the text that a scalar stands
for and the place after it, or nothing where the scalar is not well formed.

* `quoted?` reads the two quoted styles from their opening quote on;
* `plain?` reads a plain scalar, which ends before an indicator or before a line that is not indented;
* `block?` reads the literal and the folded style from their indicator on.
-/

namespace ArchAtlas.Yaml

/-- How a scalar is written. -/
inductive Style where
  | plain
  | single
  | double
  | literal
  | folded
  deriving DecidableEq, Repr

namespace Scalar

/-- What stands between two words of a scalar. Once the line is `broken`, blanks do not count; the
`first` line break is folded. -/
structure Gap where
  broken : Bool
  blanks : List Char
  first : List Char
  further : List Char
  deriving DecidableEq, Repr

def Gap.none : Gap := ⟨false, [], [], []⟩

/-- What follows a line break that was escaped. -/
def Gap.escaped : Gap := ⟨true, [], [], []⟩

/-- The text of a gap: a single line feed is a blank, and one of several is dropped. -/
def Gap.text (g : Gap) : List Char :=
  if g.broken then
    if g.first = ['\n'] then if g.further.isEmpty then [' '] else g.further
    else g.first ++ g.further
  else g.blanks

/-- Extends a gap over all blanks and line breaks. A tab that stands in the first `indent` columns of a
further line is refused. -/
def takeGap? (indent : Nat) : (fuel : Nat) → Gap → Cursor → Option (Gap × Cursor)
  | 0, _, _ => .none
  | fuel + 1, g, c =>
    match c.rest with
    | [] => some (g, c)
    | ch :: _ =>
      if isSpace ch then
        if g.broken && c.column < indent && ch = '\t' then .none
        else if g.broken then takeGap? indent fuel g c.next
        else takeGap? indent fuel { g with blanks := g.blanks ++ [ch] } c.next
      else
        match c.break? with
        | some (b, c) =>
          if g.broken then takeGap? indent fuel { g with further := g.further ++ [b] } c
          else takeGap? indent fuel ⟨true, [], [b], []⟩ c
        | Option.none => some (g, c)

/-- The character with a code point, if there is one. -/
def charOf? (n : Nat) : Option Char :=
  if n.isValidChar then some (Char.ofNat n) else none

/-- The character that `digits` hexadecimal digits stand for. -/
def hexEscape? (digits : Nat) (c : Cursor) : Option (Char × Cursor) :=
  let written := c.rest.take digits
  if written.length = digits && written.all isHexDigit then
    (charOf? (ofHexDigits written)).map fun ch => (ch, c.drop digits)
  else none

/-- The characters that stand for others after a backslash. -/
def escapes : List (Char × Char) :=
  [('0', '\x00'), ('a', '\x07'), ('b', '\x08'), ('t', '\t'), ('\t', '\t'), ('n', '\n'), ('v', '\x0b'),
    ('f', '\x0c'), ('r', '\r'), ('e', '\x1b'), (' ', ' '), ('"', '"'), ('/', '/'), ('\\', '\\'),
    ('N', '\x85'), ('_', '\xa0'), ('L', '\u2028'), ('P', '\u2029')]

/-- The character that an escape stands for, from behind the backslash. -/
def escape? (c : Cursor) : Option (Char × Cursor) :=
  match c.rest with
  | 'x' :: _ => hexEscape? 2 c.next
  | 'u' :: _ => hexEscape? 4 c.next
  | 'U' :: _ => hexEscape? 8 c.next
  | ch :: _ => (escapes.lookup ch).map fun e => (e, c.next)
  | [] => none

/-- A word of a quoted scalar: up to a blank, a line break or the closing quote. Also what gap follows:
an escaped line break starts one. The word is collected backwards in `acc`. -/
def quotedWord? (single : Bool) :
    (fuel : Nat) → (acc : List Char) → Cursor → Option (List Char × Gap × Cursor)
  | 0, _, _ => none
  | fuel + 1, acc, c =>
    match c.rest with
    | [] => some (acc, .none, c)
    | ch :: tail =>
      if isSpace ch || isBreak ch then some (acc, .none, c)
      else if single then
        if ch = '\'' then
          if tail.head? = some '\'' then quotedWord? single fuel ('\'' :: acc) (c.drop 2)
          else some (acc, .none, c)
        else quotedWord? single fuel (ch :: acc) c.next
      else if ch = '"' then some (acc, .none, c)
      else if ch = '\\' then
        match c.next.break? with
        | some (_, c) => some (acc, .escaped, c)
        | none =>
          match escape? c.next with
          | some (e, c) => quotedWord? single fuel (e :: acc) c
          | none => none
      else quotedWord? single fuel (ch :: acc) c.next

/-- The words and gaps of a quoted scalar up to and with its closing quote. -/
def quotedRest? (single : Bool) :
    (fuel : Nat) → (acc : List Char) → Cursor → Option (List Char × Cursor)
  | 0, _, _ => none
  | fuel + 1, acc, c =>
    if c.rest.isEmpty || (c.column = 0 && isDocumentMark c.rest) then none
    else
      match quotedWord? single (c.rest.length + 1) acc c with
      | none => none
      | some (acc, gap, c) =>
        if c.isAt (if single then '\'' else '"') then some (acc.reverse, c.next)
        else
          match takeGap? 0 (c.rest.length + 1) gap c with
          | none => none
          | some (gap, c) => quotedRest? single fuel (gap.text.reverse ++ acc) c

/-- A quoted scalar, from its opening quote on. -/
def quoted? (single : Bool) (c : Cursor) : Option (List Char × Cursor) :=
  quotedRest? single (c.rest.length + 1) [] c.next

/-- The characters that end a plain scalar within brackets. -/
def flowMarks : List Char := [',', '[', ']', '{', '}']

/-- Whether a plain scalar ends before this text: at a colon that ends a word, and within brackets at
one of theirs. -/
def endsPlain (flow : Bool) : List Char → Bool
  | ':' :: rest => endsWord rest
  | c :: _ => flow && flowMarks.contains c
  | [] => true

/-- Within brackets a colon must not stand before one of their characters. -/
def isMisplacedColon (flow : Bool) : List Char → Bool
  | ':' :: c :: _ => flow && (c = '?' || flowMarks.contains c)
  | _ => false

/-- A word of a plain scalar, collected backwards in `acc`. -/
def plainWord? (flow : Bool) :
    (fuel : Nat) → (acc : List Char) → Cursor → Option (List Char × Cursor)
  | 0, _, _ => none
  | fuel + 1, acc, c =>
    match c.rest with
    | [] => some (acc, c)
    | ch :: _ =>
      if isSpace ch || isBreak ch then some (acc, c)
      else if isMisplacedColon flow c.rest then none
      else if endsPlain flow c.rest then some (acc, c)
      else plainWord? flow fuel (ch :: acc) c.next

/-- The words and gaps of a plain scalar; the gap before the first of them is `gap`. Also whether the
scalar ends in a line break. -/
def plainRest? (flow : Bool) (indent : Nat) :
    (fuel : Nat) → (acc : List Char) → Gap → Cursor → Option (List Char × Bool × Cursor)
  | 0, _, _, _ => none
  | fuel + 1, acc, gap, c =>
    if (c.column = 0 && isDocumentMark c.rest) || c.isAt '#' then
      some (acc.reverse, gap.broken, c)
    else
      match plainWord? flow (c.rest.length + 1) [] c with
      | none => none
      | some ([], c) => some (acc.reverse, gap.broken, c)
      | some (word, c) =>
        let acc := word ++ gap.text.reverse ++ acc
        match takeGap? indent (c.rest.length + 1) .none c with
        | none => none
        | some (gap, after) =>
          if after.index = c.index then some (acc.reverse, false, c)
          else if !flow && after.column < indent then some (acc.reverse, gap.broken, after)
          else plainRest? flow indent fuel acc gap after

/-- A plain scalar, and whether it ends in a line break. In a block, further lines are indented by at
least `indent` columns. -/
def plain? (flow : Bool) (indent : Nat) (c : Cursor) : Option (List Char × Bool × Cursor) :=
  plainRest? flow indent (c.rest.length + 1) [] .none c

/-- Which line breaks at the end of a block are kept. -/
inductive Chomping where
  | strip
  | clip
  | keep
  deriving DecidableEq, Repr

def chomping? (c : Cursor) : Option (Chomping × Cursor) :=
  match c.rest with
  | '+' :: _ => some (.keep, c.next)
  | '-' :: _ => some (.strip, c.next)
  | _ => none

/-- The digit that says how far a block is indented; zero when there is none. -/
def indentation? (c : Cursor) : Option (Nat × Cursor) :=
  match c.rest with
  | '0' :: _ => none
  | ch :: _ => if ch.isDigit then some (ch.toNat - '0'.toNat, c.next) else some (0, c)
  | [] => some (0, c)

/-- The hints behind the indicator of a block, in either order. -/
def hints? (c : Cursor) : Option (Chomping × Nat × Cursor) :=
  match chomping? c with
  | some (chomping, c) => (indentation? c).map fun (n, c) => (chomping, n, c)
  | none =>
    match indentation? c with
    | none => none
    | some (n, after) =>
      if n = 0 then some (.clip, 0, after)
      else
        match chomping? after with
        | some (chomping, c) => some (chomping, n, c)
        | none => some (.clip, n, after)

/-- Blank lines of a block: their line breaks, and the greatest indentation seen. Indentation is
skipped up to `indent` columns, or without a bound when that is zero. -/
def blankLines? (indent : Nat) :
    (fuel : Nat) → (greatest : Nat) → (breaks : List Char) → Cursor → Option (Nat × List Char × Cursor)
  | 0, _, _, _ => none
  | fuel + 1, greatest, breaks, c =>
    let blanks := (c.rest.takeWhile fun ch => ch = ' ').length
    let c := c.drop (if indent = 0 then blanks else min blanks (indent - c.column))
    let greatest := max greatest c.column
    if (indent = 0 || c.column < indent) && c.isAt '\t' then none
    else
      match c.break? with
      | some (b, c) => blankLines? indent fuel greatest (breaks ++ [b]) c
      | none => some (greatest, breaks, c)

/-- A block being read: its text backwards, the last line break, the breaks of the blank lines after
it, and whether the last line started with a blank. -/
structure Block where
  acc : List Char
  lead : List Char
  further : List Char
  blankStart : Bool
  deriving DecidableEq, Repr

/-- The text between the lines read so far and a line that starts with a blank or not: a folded line
feed is a blank, unless blank lines follow or one of the lines starts with a blank. -/
def Block.joint (literal : Bool) (b : Block) (blankStart : Bool) : List Char :=
  if !literal && b.lead = ['\n'] && !b.blankStart && !blankStart then
    if b.further.isEmpty then [' '] else b.further
  else b.lead ++ b.further

/-- The lines of a block that are indented by `indent` columns. -/
def blockLines? (literal : Bool) (indent : Nat) :
    (fuel : Nat) → Block → Cursor → Option (Block × Cursor)
  | 0, _, _ => none
  | fuel + 1, b, c =>
    match c.rest with
    | [] => some (b, c)
    | ch :: _ =>
      if c.column ≠ indent then some (b, c)
      else
        let blankStart := isSpace ch
        let (line, c) := c.span fun ch => !isBreak ch
        let acc := line.reverse ++ (b.joint literal blankStart).reverse ++ b.acc
        let (lead, c) : List Char × Cursor :=
          match c.break? with
          | some (br, c) => ([br], c)
          | none => ([], c)
        match blankLines? indent (c.rest.length + 1) 0 [] c with
        | none => none
        | some (_, further, c) => blockLines? literal indent fuel ⟨acc, lead, further, blankStart⟩ c

/-- A block, from its indicator on. `parent` is the indentation around it. -/
def block? (literal : Bool) (parent : Int) (c : Cursor) : Option (List Char × Cursor) := do
  let (chomping, increment, c) ← hints? c.next
  let c ← c.endLine?
  let given := if increment = 0 then 0 else (max parent 0).toNat + increment
  let (greatest, breaks, c) ← blankLines? given (c.rest.length + 1) 0 [] c
  let indent := if given = 0 then max greatest (max (parent + 1) 1).toNat else given
  let (b, c) ← blockLines? literal indent (c.rest.length + 1) ⟨[], [], breaks, false⟩ c
  let ending := match chomping with
    | .strip => []
    | .clip => b.lead
    | .keep => b.lead ++ b.further
  return (b.acc.reverse ++ ending, c)

end Scalar

end ArchAtlas.Yaml
