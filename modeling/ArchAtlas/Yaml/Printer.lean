import ArchAtlas.Decimal.Layout
import ArchAtlas.Json.Basic
import ArchAtlas.Yaml.Plain

/-!
Writing JSON values as YAML blocks: two columns of indentation for each level, the items of a sequence
at the column of its key, and `[]` and an empty pair of braces for containers without content.

A text is plain where that is read back as the same text; otherwise it stands in single quotes, or in
double quotes when it has characters that must be escaped. A text with line feeds is a literal block.
-/

namespace ArchAtlas.Yaml

/-- Characters that are written as they are. -/
def isPrintable (c : Char) : Bool :=
  let n := c.toNat
  n = 0x0A || (0x20 ≤ n && n ≤ 0x7E) || (0xA0 ≤ n && n ≤ 0xFFFD && n ≠ 0xFEFF) || 0x10000 ≤ n

/-- The indicators that no plain scalar starts with. -/
def leadingMarks : List Char :=
  ['#', ',', '[', ']', '{', '}', '&', '*', '!', '|', '>', '\'', '"', '%', '@', '\x60']

/-- Whether a word ends before this text, or a null character does. -/
def endsWritten : List Char → Bool
  | [] => true
  | c :: _ => isSpace c || isBreak c || c.toNat = 0

/-- Whether a mark in the text after its first character would end a plain scalar: a colon at the end
of a word, or the start of a comment. -/
def hasInnerMark : (afterBlank : Bool) → List Char → Bool
  | _, [] => false
  | afterBlank, c :: rest =>
    (c = ':' && endsWritten rest) || (c = '#' && afterBlank) ||
      hasInnerMark (endsWritten [c]) rest

/-- Whether a text has marks that a plain scalar must not have. -/
def hasMarks (s : List Char) : Bool :=
  ["---".toList, "...".toList].contains (s.take 3) ||
    match s with
    | [] => false
    | c :: rest =>
      leadingMarks.contains c || ((c = '?' || c = ':' || c = '-') && endsWritten rest) ||
        hasInnerMark (endsWritten [c]) rest

/-- Whether a character that satisfies `p` is followed by one that satisfies `q`. -/
def hasPair (p q : Char → Bool) : List Char → Bool
  | a :: b :: rest => (p a && q b) || hasPair p q (b :: rest)
  | _ => false

def isBlankChar (c : Char) : Bool := c = ' '

/-- Whether a text can be written without escapes: all is printable, and no line ends in a blank. -/
def isOpen (s : List Char) : Bool :=
  s.all isPrintable && !hasPair isBlankChar isBreak s

/-- Whether a plain scalar can have this text. -/
def isPlainAllowed (s : List Char) : Bool :=
  isOpen s && !(s.any isBreak) && !(s.head?.any isBlankChar) && !(s.getLast?.any isBlankChar) &&
    !hasMarks s

/-- Whether a scalar in single quotes can have this text: no further line starts with a blank. -/
def isSingleAllowed (s : List Char) : Bool :=
  isOpen s && !hasPair isBreak isBlankChar s

/-- Whether a literal block can have this text. -/
def isLiteralAllowed (s : List Char) : Bool :=
  isOpen s && !s.getLast?.any isBlankChar

def indentation (n : Nat) : List Char := List.replicate n ' '

/-- The lines of a text: after line breaks, the next line is indented. -/
def indentLines (indent : Nat) : (broken : Bool) → List Char → List Char
  | _, [] => []
  | broken, c :: rest =>
    if isBreak c then c :: indentLines indent true rest
    else (if broken then indentation indent else []) ++ c :: indentLines indent false rest

/-- A text in single quotes. -/
def singleQuoted (indent : Nat) (s : List Char) : List Char :=
  let doubled := s.flatMap fun c => if c = '\'' then ['\'', '\''] else [c]
  let ending := if s.getLast?.any isBreak then indentation indent else []
  '\'' :: indentLines indent false doubled ++ ending ++ ['\'']

def upperHex (digits n : Nat) : List Char :=
  let written := (Nat.toDigits 16 n).map Char.toUpper
  List.replicate (digits - written.length) '0' ++ written

/-- The letters that stand for characters after a backslash. -/
def shortEscapes : List (Char × Char) :=
  [('\x00', '0'), ('\x07', 'a'), ('\x08', 'b'), ('\t', 't'), ('\n', 'n'), ('\x0b', 'v'), ('\x0c', 'f'),
    ('\r', 'r'), ('\x1b', 'e'), ('"', '"'), ('\\', '\\'), ('\x85', 'N'), ('\u2028', 'L'),
    ('\u2029', 'P')]

/-- A character as it stands in double quotes. -/
def escaped (c : Char) : List Char :=
  match shortEscapes.lookup c with
  | some e => ['\\', e]
  | none =>
    if isPrintable c then [c]
    else if c.toNat ≤ 0xFF then '\\' :: 'x' :: upperHex 2 c.toNat
    else if c.toNat ≤ 0xFFFF then '\\' :: 'u' :: upperHex 4 c.toNat
    else '\\' :: 'U' :: upperHex 8 c.toNat

/-- A text in double quotes. -/
def doubleQuoted (s : List Char) : List Char :=
  '"' :: s.flatMap escaped ++ ['"']

/-- What is said about a literal block: its indentation, where the text starts with a blank or a line
break, and which line breaks at its end are kept. -/
def literalHints (s : List Char) : List Char :=
  let indent := if s.head?.any fun c => isBlankChar c || isBreak c then ['2'] else []
  let ending := match s.reverse with
    | [] => ['-']
    | [c] => if isBreak c then ['+'] else ['-']
    | c :: d :: _ => if !isBreak c then ['-'] else if isBreak d then ['+'] else []
  indent ++ ending

/-- A text as a literal block. -/
def literal (indent : Nat) (s : List Char) : List Char :=
  '|' :: literalHints s ++ '\n' :: indentLines indent true s

/-- A text as a scalar that is no block. -/
def flowScalar (indent : Nat) (text : String) : List Char :=
  let s := text.toList
  if Plain.isText text && isPlainAllowed s then s
  else if isSingleAllowed s && !s.contains '\n' then singleQuoted indent s
  else doubleQuoted s

/-- A text as a scalar, with the end of its line; a block that ends in a line break ends its line. -/
def scalarLine (indent : Nat) (text : String) : String :=
  let s := text.toList
  let written :=
    if s.contains '\n' && isLiteralAllowed s then literal indent s else flowScalar indent text
  String.ofList (if written.getLast?.any isBreak then written else written ++ ['\n'])

def keyText (indent : Nat) (text : String) : String :=
  String.ofList (flowScalar indent text)

/-- What follows a mark on the same line. -/
def onLine (s : String) : String := " " ++ s ++ "\n"

def pad (n : Nat) : String := String.ofList (indentation n)

mutual

/-- A value behind the colon of its key, where keys stand at `column`. -/
def afterKey (column : Nat) : Json → String
  | .null => onLine "null"
  | .bool b => onLine (if b then "true" else "false")
  | .int n => onLine (toString n)
  | .float x => onLine (Decimal.Layout.yaml.render x)
  | .str s => " " ++ scalarLine (column + 2) s
  | .arr [] => onLine "[]"
  | .arr (item :: items) => "\n" ++ pad column ++ sequence column (item :: items)
  | .obj [] => onLine "\x7b\x7d"
  | .obj (member :: members) => "\n" ++ pad (column + 2) ++ mapping (column + 2) (member :: members)

/-- A value behind the dash of an item, where dashes stand at `column`. -/
def afterDash (column : Nat) : Json → String
  | .null => onLine "null"
  | .bool b => onLine (if b then "true" else "false")
  | .int n => onLine (toString n)
  | .float x => onLine (Decimal.Layout.yaml.render x)
  | .str s => " " ++ scalarLine (column + 2) s
  | .arr [] => onLine "[]"
  | .arr (item :: items) => " " ++ sequence (column + 2) (item :: items)
  | .obj [] => onLine "\x7b\x7d"
  | .obj (member :: members) => " " ++ mapping (column + 2) (member :: members)

/-- Items at a column; the first stands where the text is. -/
def sequence (column : Nat) : List Json → String
  | [] => ""
  | [item] => "-" ++ afterDash column item
  | item :: items => "-" ++ afterDash column item ++ pad column ++ sequence column items

/-- Members at a column; the first stands where the text is. -/
def mapping (column : Nat) : List (String × Json) → String
  | [] => ""
  | [(key, value)] => keyText column key ++ ":" ++ afterKey column value
  | (key, value) :: members =>
    keyText column key ++ ":" ++ afterKey column value ++ pad column ++ mapping column members

end

/-- A value as a document. -/
def render : Json → String
  | .arr (item :: items) => sequence 0 (item :: items)
  | .obj (member :: members) => mapping 0 (member :: members)
  | .arr [] => "[]\n"
  | .obj [] => "\x7b\x7d\n"
  | .null => "null\n"
  | .bool b => if b then "true\n" else "false\n"
  | .int n => toString n ++ "\n"
  | .float x => Decimal.Layout.yaml.render x ++ "\n"
  | .str s => scalarLine 2 s

end ArchAtlas.Yaml
