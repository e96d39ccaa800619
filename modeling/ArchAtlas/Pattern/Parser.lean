import ArchAtlas.Decimal.Reading
import ArchAtlas.Json.Lexed
import ArchAtlas.Pattern.Basic
import ArchAtlas.Text.Slice

/-!
Reading regular expressions: literals, character classes with set operations, anchors, groups with
names and flags, alternation, and repetition by marks or counts. Look-around and references to groups
are refused.
-/

namespace ArchAtlas.Pattern

/-- The switches that can be set in a pattern. -/
structure Flags where
  ignoreCase : Bool
  multiLine : Bool
  dotNewline : Bool
  unicode : Bool
  verbose : Bool
  deriving DecidableEq, Repr

def Flags.initial : Flags := ⟨false, false, false, true, false⟩

/-- The flags in force, and the group names used so far. -/
structure Context where
  flags : Flags
  names : List (List Char)
  deriving DecidableEq, Repr

/-- What an escape stands for. -/
inductive Primitive where
  | literal (c : Char)
  | set (s : CharSet)
  | assertion (a : Assertion)
  deriving DecidableEq, Repr

/-- Blanks and comments, which verbose patterns may contain. -/
def skipVerbose (flags : Flags) (s : List Char) : List Char :=
  if flags.verbose then go (s.length + 1) s else s
where
  go : Nat → List Char → List Char
    | 0, s => s
    | fuel + 1, s =>
      match s.dropWhile Text.isBlank with
      | '#' :: rest => go fuel (rest.dropWhile fun c => c ≠ '\n')
      | rest => rest

/-- The set of characters that a literal matches. -/
def literalSet (flags : Flags) (c : Char) : CharSet :=
  if flags.ignoreCase then .folded (.single c) else .single c

def foldSet (flags : Flags) (s : CharSet) : CharSet :=
  if flags.ignoreCase then .folded s else s

/-- The classes written with a single letter. -/
def letterClass? (flags : Flags) (c : Char) : Option CharSet :=
  let pick (wide : CharSet) (narrow : String) : CharSet :=
    if flags.unicode then wide else (CharSet.ascii? narrow).getD .nothing
  match c with
  | 'd' => some (pick .digit "digit")
  | 'D' => some (.complement (pick .digit "digit"))
  | 's' => some (pick .blank "space")
  | 'S' => some (.complement (pick .blank "space"))
  | 'w' => some (pick .word "word")
  | 'W' => some (.complement (pick .word "word"))
  | _ => none

def metaCharacters : List Char :=
  ['\\', '.', '+', '*', '?', '(', ')', '|', '[', ']', '\x7b', '\x7d', '^', '$', '#', '&', '-', '~']

/-- Whether a character may be escaped without need. -/
def isEscapable (c : Char) : Bool :=
  metaCharacters.contains c || (c.toNat < 128 && !c.isAlphanum && c ≠ '<' && c ≠ '>')

def isScalar (n : Nat) : Bool :=
  n < 0xD800 || (0xDFFF < n && n < 0x110000)

/-- A code point in hexadecimal: a fixed number of digits, or any number between braces. -/
def takeHex? (width : Nat) (s : List Char) : Option (Char × List Char) :=
  let value (digits : List Char) : Option Char :=
    let n := digits.foldl (fun n d => n * 16 + Json.Lexed.hexValue d) 0
    if !digits.isEmpty && digits.all Json.Lexed.isHexDigit && isScalar n then some (Char.ofNat n)
    else none
  match s with
  | '\x7b' :: rest =>
    match Text.splitFirst? '\x7d' rest with
    | some (digits, rest) => (value digits).map fun c => (c, rest)
    | none => none
  | _ =>
    let digits := s.take width
    if digits.length = width then (value digits).map fun c => (c, s.drop width) else none

/-- The named forms of a word boundary. -/
def boundaryForms : List (String × Assertion) :=
  [("start", .wordStart), ("end", .wordEnd), ("start-half", .wordStartHalf),
    ("end-half", .wordEndHalf)]

/-- A word boundary, which may be followed by the name of its form. -/
def takeBoundary? (s : List Char) : Option (Assertion × List Char) :=
  match s with
  | '\x7b' :: c :: rest =>
    if c.isAlpha || c = '-' then
      match Text.splitFirst? '\x7d' (c :: rest) with
      | some (name, rest) => (boundaryForms.lookup (String.ofList name)).map fun a => (a, rest)
      | none => none
    else some (.wordBoundary, s)
  | _ => some (.wordBoundary, s)

/-- What follows a backslash. -/
def takeEscape? (flags : Flags) (s : List Char) : Option (Primitive × List Char) :=
  match s with
  | [] => none
  | 'x' :: rest => (takeHex? 2 rest).map fun (c, r) => (.literal c, r)
  | 'u' :: rest => (takeHex? 4 rest).map fun (c, r) => (.literal c, r)
  | 'U' :: rest => (takeHex? 8 rest).map fun (c, r) => (.literal c, r)
  | 'a' :: rest => some (.literal '\x07', rest)
  | 'f' :: rest => some (.literal '\x0c', rest)
  | 't' :: rest => some (.literal '\t', rest)
  | 'n' :: rest => some (.literal '\n', rest)
  | 'r' :: rest => some (.literal '\r', rest)
  | 'v' :: rest => some (.literal '\x0b', rest)
  | 'A' :: rest => some (.assertion .textStart, rest)
  | 'z' :: rest => some (.assertion .textEnd, rest)
  | 'b' :: rest => (takeBoundary? rest).map fun (a, r) => (.assertion a, r)
  | 'B' :: rest => some (.assertion .notWordBoundary, rest)
  | '<' :: rest => some (.assertion .wordStart, rest)
  | '>' :: rest => some (.assertion .wordEnd, rest)
  | c :: rest =>
    match letterClass? flags c with
    | some set => some (.set set, rest)
    | none => if isEscapable c then some (.literal c, rest) else none

/-- The operations between the parts of a character class. -/
inductive SetOperation where
  | inter
  | minus
  | symmetric
  deriving DecidableEq, Repr

def SetOperation.apply : SetOperation → CharSet → CharSet → CharSet
  | .inter => .inter
  | .minus => .minus
  | .symmetric => .symmetric

/-- The part of a class read so far, combined with what stands before the last operation. -/
def closePart (flags : Flags) (pending : Option (SetOperation × CharSet)) (part : CharSet) :
    CharSet :=
  match pending with
  | none => part
  | some (op, before) => op.apply (foldSet flags before) (foldSet flags part)

/-- A class of ASCII characters by name, at its opening bracket. -/
def takeAsciiClass? (s : List Char) : Option (CharSet × List Char) := do
  let rest ← Text.after? "[:".toList s
  let (negated, rest) : Bool × List Char :=
    match rest with
    | '^' :: r => (true, r)
    | r => (false, r)
  let (name, rest) ← Text.splitFirst? ':' rest
  let rest ← Text.after? "]".toList rest
  let set ← CharSet.ascii? (String.ofList name)
  return (if negated then .complement set else set, rest)

/-- A literal or an escape in a class. -/
def takeClassItem? (flags : Flags) (s : List Char) : Option (Primitive × List Char) :=
  match s with
  | [] => none
  | '\\' :: rest => takeEscape? flags rest
  | c :: rest => some (.literal c, rest)

/-- The set of a single item of a class. -/
def itemSet? : Primitive → Option CharSet
  | .literal c => some (.single c)
  | .set s => some s
  | .assertion _ => none

/-- An item or a range of a class. -/
def takeClassRange? (flags : Flags) (s : List Char) : Option (CharSet × List Char) := do
  let (item, rest) ← takeClassItem? flags s
  let rest := skipVerbose flags rest
  match rest with
  | [] => none
  | '-' :: more =>
    match skipVerbose flags more with
    | [] => none
    | ']' :: _ | '-' :: _ => return (← itemSet? item, rest)
    | more =>
      let (last, rest) ← takeClassItem? flags more
      match item, last with
      | .literal a, .literal b => if a ≤ b then return (.range a b, rest) else none
      | _, _ => none
  | _ => return (← itemSet? item, rest)

/-- The marks at the start of a class that stand for themselves: any number of hyphens, or a closing
bracket. -/
def takeClassHead (flags : Flags) (s : List Char) : CharSet × List Char :=
  let (hyphens, rest) := hyphensOf (s.length + 1) s
  if hyphens then (.single '-', rest)
  else
    match rest with
    | ']' :: r => (.single ']', skipVerbose flags r)
    | r => (.nothing, r)
where
  hyphensOf : Nat → List Char → Bool × List Char
    | 0, s => (false, s)
    | fuel + 1, s =>
      match skipVerbose flags s with
      | '-' :: rest => (true, (hyphensOf fuel rest).2)
      | rest => (false, rest)

/-- A character class after its opening bracket, up to and with its closing one. -/
def takeClass? (flags : Flags) : (fuel : Nat) → List Char → Option (CharSet × List Char)
  | 0, _ => none
  | fuel + 1, s =>
    let (negated, rest) : Bool × List Char :=
      match skipVerbose flags s with
      | '^' :: r => (true, r)
      | r => (false, r)
    let (head, rest) := takeClassHead flags rest
    (body fuel none head rest).map fun (set, rest) =>
      let set := foldSet flags set
      (if negated then .complement set else set, rest)
where
  body : Nat → Option (SetOperation × CharSet) → CharSet → List Char → Option (CharSet × List Char)
    | 0, _, _, _ => none
    | fuel + 1, pending, part, s =>
      let combine (op : SetOperation) (rest : List Char) :=
        body fuel (some (op, closePart flags pending part)) .nothing rest
      match skipVerbose flags s with
      | [] => none
      | ']' :: rest => some (closePart flags pending part, rest)
      | '&' :: '&' :: rest => combine .inter rest
      | '-' :: '-' :: rest => combine .minus rest
      | '~' :: '~' :: rest => combine .symmetric rest
      | '[' :: rest =>
        match takeAsciiClass? ('[' :: rest) with
        | some (set, rest) => body fuel pending (.union part set) rest
        | none =>
          match takeClass? flags fuel rest with
          | some (set, rest) => body fuel pending (.union part set) rest
          | none => none
      | rest =>
        match takeClassRange? flags rest with
        | some (set, rest) => body fuel pending (.union part set) rest
        | none => none

/-- A number in a counted repetition, with blanks around it. -/
def takeCount? (s : List Char) : Option (Nat × List Char) :=
  match Decimal.takeDigits (Text.trimStart s) with
  | ([], _) => none
  | (digits, rest) =>
    let n := Decimal.ofDigits digits
    if n < 0x100000000 then some (n, Text.trimStart rest) else none

/-- The bounds of a counted repetition after its opening brace. -/
def takeBounds? (s : List Char) : Option (Nat × Option Nat × List Char) := do
  let (least, rest) ← takeCount? s
  match rest with
  | '\x7d' :: rest => return (least, some least, rest)
  | ',' :: rest =>
    match Text.trimStart rest with
    | '\x7d' :: rest => return (least, none, rest)
    | rest =>
      let (most, rest) ← takeCount? rest
      match rest with
      | '\x7d' :: rest => if least ≤ most then return (least, some most, rest) else none
      | _ => none
  | _ => none

/-- Sets or clears a flag. -/
def Flags.set? (flags : Flags) (c : Char) (on : Bool) : Option Flags :=
  match c with
  | 'i' => some { flags with ignoreCase := on }
  | 'm' => some { flags with multiLine := on }
  | 's' => some { flags with dotNewline := on }
  | 'u' => some { flags with unicode := on }
  | 'x' => some { flags with verbose := on }
  | 'U' | 'R' => some flags
  | _ => none

/-- Flags up to the mark that ends them, each at most once, those behind a hyphen cleared. The result
has the flags, the mark, and whether there were any. -/
def takeFlags? (flags : Flags) (seen : List Char) : List Char → Option (Flags × Char × Bool × List Char)
  | [] => none
  | c :: rest =>
    if c = ':' || c = ')' then
      if seen.head? = some '-' then none else some (flags, c, !seen.isEmpty, rest)
    else if seen.contains c then none
    else if c = '-' then takeFlags? flags (c :: seen) rest
    else
      match flags.set? c (!seen.contains '-') with
      | some flags => takeFlags? flags (c :: seen) rest
      | none => none

def isNameStart (c : Char) : Bool :=
  c = '_' || c.isAlpha || (128 ≤ c.toNat && Text.isWord c)

def isNameRest (c : Char) : Bool :=
  isNameStart c || c.isDigit || c = '.' || c = '[' || c = ']'

/-- The name of a group, which must be new. -/
def takeGroupName? (names : List (List Char)) (s : List Char) : Option (List Char × List Char) :=
  match Text.splitFirst? '>' s with
  | some (c :: name, rest) =>
    if isNameStart c && name.all isNameRest && !names.contains (c :: name) then
      some (c :: name, rest)
    else none
  | _ => none

/-- The start of a group, after its opening parenthesis. -/
inductive GroupHead where
  | group (context : Context) (rest : List Char)
  | directive (flags : Flags) (rest : List Char)

def takeGroupHead? (context : Context) (s : List Char) : Option GroupHead :=
  let named (s : List Char) : Option GroupHead :=
    (takeGroupName? context.names s).map fun (name, rest) =>
      .group { context with names := name :: context.names } rest
  match s with
  | '?' :: '=' :: _ | '?' :: '!' :: _ | '?' :: '<' :: '=' :: _ | '?' :: '<' :: '!' :: _ => none
  | '?' :: 'P' :: '<' :: rest => named rest
  | '?' :: '<' :: rest => named rest
  | '?' :: rest =>
    match takeFlags? context.flags [] rest with
    | some (flags, ':', _, rest) => some (.group { context with flags } rest)
    | some (flags, _, true, rest) => some (.directive flags rest)
    | _ => none
  | _ => some (.group context s)

/-- The items of a branch, last first; a directive leaves no item to repeat. -/
abbrev Items := List (Option Pattern)

def Items.pattern (items : Items) : Pattern :=
  items.foldl (fun acc item => match item with
    | some p => if acc = .empty then p else .seq p acc
    | none => acc) .empty

/-- Repeats the last item. -/
def Items.repeatLast? (items : Items) (least : Nat) (most : Option Nat) : Option Items :=
  match items with
  | some p :: rest => some (some (.times p least most) :: rest)
  | _ => none

/-- A mark behind a repetition that makes it lazy, which does not change where it can match. -/
def skipLazy (s : List Char) : List Char :=
  match s with
  | '?' :: rest => rest
  | _ => s

mutual

/-- Branches up to a closing parenthesis or the end. -/
def takeBranches? : (fuel : Nat) → Context → List Char → Option (Pattern × Context × List Char)
  | 0, _, _ => none
  | fuel + 1, context, s =>
    match takeItems? fuel context [] s with
    | none => none
    | some (p, context, '|' :: rest) =>
      (takeBranches? fuel context rest).map fun (q, context, rest) => (.alt p q, context, rest)
    | some (p, context, rest) => some (p, context, rest)

/-- The items of a branch. -/
def takeItems? : (fuel : Nat) → Context → Items → List Char → Option (Pattern × Context × List Char)
  | 0, _, _, _ => none
  | fuel + 1, context, items, s =>
    let flags := context.flags
    let put (p : Pattern) (rest : List Char) := takeItems? fuel context (some p :: items) rest
    let again (least : Nat) (most : Option Nat) (rest : List Char) :=
      match items.repeatLast? least most with
      | some items => takeItems? fuel context items (skipLazy rest)
      | none => none
    match skipVerbose flags s with
    | [] => some (items.pattern, context, [])
    | '|' :: rest => some (items.pattern, context, '|' :: rest)
    | ')' :: rest => some (items.pattern, context, ')' :: rest)
    | '(' :: rest =>
      match takeGroupHead? context (skipVerbose flags rest) with
      | none => none
      | some (.directive flags rest) =>
        takeItems? fuel { context with flags } (none :: items) rest
      | some (.group inside rest) =>
        match takeBranches? fuel inside rest with
        | some (p, inside, ')' :: rest) =>
          takeItems? fuel { inside with flags } (some p :: items) rest
        | _ => none
    | '[' :: rest =>
      match takeClass? flags (2 * rest.length + 2) rest with
      | some (set, rest) => put (.one set) rest
      | none => none
    | '*' :: rest => again 0 none rest
    | '+' :: rest => again 1 none rest
    | '?' :: rest => again 0 (some 1) rest
    | '\x7b' :: rest =>
      match takeBounds? rest with
      | some (least, most, rest) => again least most rest
      | none => none
    | '.' :: rest =>
      put (.one (if flags.dotNewline then .everything else .complement (.single '\n'))) rest
    | '^' :: rest => put (.assert (if flags.multiLine then .lineStart else .textStart)) rest
    | '$' :: rest => put (.assert (if flags.multiLine then .lineEnd else .textEnd)) rest
    | '\\' :: rest =>
      match takeEscape? flags rest with
      | some (.literal c, rest) => put (.one (literalSet flags c)) rest
      | some (.set set, rest) => put (.one set) rest
      | some (.assertion a, rest) => put (.assert a) rest
      | none => none
    | c :: rest => put (.one (literalSet flags c)) rest

end

/-- Reads a whole text as a regular expression. -/
def parse? (text : String) : Option Pattern :=
  let s := text.toList
  match takeBranches? (2 * s.length + 2) ⟨.initial, []⟩ s with
  | some (p, _, []) => some p
  | _ => none

instance : Regex Pattern where
  compile? := parse?
  isMatch := search

end ArchAtlas.Pattern
