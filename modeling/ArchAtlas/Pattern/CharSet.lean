import ArchAtlas.Text.CaseFold
import ArchAtlas.Text.Word

/-!
Sets of characters as patterns denote them.
-/

namespace ArchAtlas.Pattern

/-- A set of characters. -/
inductive CharSet where
  | nothing
  | range (first last : Char)
  | digit
  | word
  | blank
  | complement (s : CharSet)
  | union (s t : CharSet)
  | inter (s t : CharSet)
  | symmetric (s t : CharSet)
  /-- Also the characters that differ only in case from a member. -/
  | folded (s : CharSet)
  deriving DecidableEq, Repr

namespace CharSet

def has : CharSet → Char → Bool
  | nothing, _ => false
  | range first last, c => first ≤ c && c ≤ last
  | digit, c => Text.isDecimalDigit c
  | word, c => Text.isWord c
  | blank, c => Text.isBlank c
  | complement s, c => !s.has c
  | union s t, c => s.has c || t.has c
  | inter s t, c => s.has c && t.has c
  | symmetric s t, c => s.has c != t.has c
  | folded s, c => s.has c || (Text.casePartners c).any s.has

def single (c : Char) : CharSet := range c c

def everything : CharSet := complement nothing

/-- The members of the first set that are not in the second. -/
def minus (s t : CharSet) : CharSet := inter s (complement t)

def ofRanges (ranges : List (Char × Char)) : CharSet :=
  ranges.foldr (fun r s => union (range r.1 r.2) s) nothing

/-- The classes of ASCII characters by their names. -/
def asciiClasses : List (String × List (Char × Char)) :=
  [("alnum", [('0', '9'), ('A', 'Z'), ('a', 'z')]),
    ("alpha", [('A', 'Z'), ('a', 'z')]),
    ("ascii", [('\x00', '\x7f')]),
    ("blank", [('\t', '\t'), (' ', ' ')]),
    ("cntrl", [('\x00', '\x1f'), ('\x7f', '\x7f')]),
    ("digit", [('0', '9')]),
    ("graph", [('!', '~')]),
    ("lower", [('a', 'z')]),
    ("print", [(' ', '~')]),
    ("punct", [('!', '/'), (':', '@'), ('[', '\x60'), ('\x7b', '~')]),
    ("space", [('\t', '\r'), (' ', ' ')]),
    ("upper", [('A', 'Z')]),
    ("word", [('0', '9'), ('A', 'Z'), ('_', '_'), ('a', 'z')]),
    ("xdigit", [('0', '9'), ('A', 'F'), ('a', 'f')])]

def ascii? (name : String) : Option CharSet :=
  (asciiClasses.lookup name).map ofRanges

end CharSet

end ArchAtlas.Pattern
