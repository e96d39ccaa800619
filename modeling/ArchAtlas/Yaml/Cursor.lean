/-!
A place in YAML text, with the classes of characters that its grammar tells apart.
-/

namespace ArchAtlas.Yaml

/-- Blanks within a line. -/
def isSpace (c : Char) : Bool :=
  c = ' ' || c = '\t'

def isBreak (c : Char) : Bool :=
  c = '\n' || c = '\r' || c = '\x85' || c = '\u2028' || c = '\u2029'

/-- Characters of anchors, tag handles and directive names. -/
def isWordChar (c : Char) : Bool :=
  c.isAlphanum || c = '_' || c = '-'

def isHexDigit (c : Char) : Bool :=
  c.isDigit || ('a' ≤ c && c ≤ 'f') || ('A' ≤ c && c ≤ 'F')

/-- The value of hexadecimal digits. -/
def ofHexDigits (digits : List Char) : Nat :=
  digits.foldl
    (fun n c =>
      16 * n +
        (if c.isDigit then c.toNat - '0'.toNat else (c.toNat ||| 0x20) - 'a'.toNat + 10)) 0

/-- Characters that may stand in YAML text. -/
def isAllowed (c : Char) : Bool :=
  let n := c.toNat
  n = 0x09 || n = 0x0A || n = 0x0D || (0x20 ≤ n && n ≤ 0x7E) || n = 0x85 ||
    (0xA0 ≤ n && n ≤ 0xFFFD) || 0x10000 ≤ n

/-- Whether a text starts where a word ends: with a blank, a line break or nothing. -/
def endsWord : List Char → Bool
  | [] => true
  | c :: _ => isSpace c || isBreak c

/-- Whether a text starts with three times the character, and nothing more in that word. -/
def isMark (c : Char) (s : List Char) : Bool :=
  s.take 3 = [c, c, c] && endsWord (s.drop 3)

/-- Whether a text starts with the mark of the start or the end of a document. -/
def isDocumentMark (s : List Char) : Bool :=
  isMark '-' s || isMark '.' s

/-- A place in a text: what follows it, and how many characters, lines and characters of the line
come before it. -/
structure Cursor where
  rest : List Char
  index : Nat
  line : Nat
  column : Nat
  deriving DecidableEq, Repr

namespace Cursor

def start (text : List Char) : Cursor := ⟨text, 0, 0, 0⟩

/-- The place after `n` characters of the same line. -/
def drop (c : Cursor) (n : Nat) : Cursor :=
  ⟨c.rest.drop n, c.index + n, c.line, c.column + n⟩

def next (c : Cursor) : Cursor := c.drop 1

/-- The characters of the same line that satisfy `p`, and the place after them. -/
def span (c : Cursor) (p : Char → Bool) : List Char × Cursor :=
  let taken := c.rest.takeWhile p
  (taken, c.drop taken.length)

def skip (c : Cursor) (p : Char → Bool) : Cursor :=
  (c.span p).2

/-- The start of the next line, `n` characters away. -/
def newLine (c : Cursor) (n : Nat) : Cursor :=
  ⟨c.rest.drop n, c.index + n, c.line + 1, 0⟩

/-- A line break as it counts in a text, and the place after it. The separators of lines and of
paragraphs count as themselves, the other line breaks as a line feed. -/
def break? (c : Cursor) : Option (Char × Cursor) :=
  match c.rest with
  | '\r' :: '\n' :: _ => some ('\n', c.newLine 2)
  | '\u2028' :: _ => some ('\u2028', c.newLine 1)
  | '\u2029' :: _ => some ('\u2029', c.newLine 1)
  | ch :: _ => if isBreak ch then some ('\n', c.newLine 1) else none
  | [] => none

/-- Whether the next character is the given one. -/
def isAt (c : Cursor) (ch : Char) : Bool :=
  c.rest.head? = some ch

/-- Skips a comment. -/
def skipComment (c : Cursor) : Cursor :=
  if c.isAt '#' then c.skip fun ch => !isBreak ch else c

/-- Skips blanks and a comment, and the line break that must follow; there may be none at the end of
the text. -/
def endLine? (c : Cursor) : Option Cursor :=
  let c := (c.skip isSpace).skipComment
  match c.break? with
  | some (_, c) => some c
  | none => if c.rest.isEmpty then some c else none

end Cursor

end ArchAtlas.Yaml
