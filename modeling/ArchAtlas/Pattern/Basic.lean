import ArchAtlas.Pattern.CharSet

/-!
Regular expressions and where they match. A pattern turns a set of places in a text into the set of
places where a match begun at one of them can end; a text is matched if, begun anywhere, a match ends
somewhere. A set of places is a list with one mark for the place before each character and one for the
end, so every step is a pass over the text.
-/

namespace ArchAtlas

/-- A kind of regular expressions: the texts that are read as one, and the texts that one matches. -/
class Regex (ρ : Type) where
  compile? : String → Option ρ
  isMatch : ρ → String → Bool

namespace Pattern

/-- A condition on the place between two characters. -/
inductive Assertion where
  | textStart
  | textEnd
  | lineStart
  | lineEnd
  | wordBoundary
  | notWordBoundary
  | wordStart
  | wordEnd
  | wordStartHalf
  | wordEndHalf
  deriving DecidableEq, Repr

/-- Whether the condition holds between two characters, either of which may be missing. -/
def Assertion.holds (a : Assertion) (before after : Option Char) : Bool :=
  let wordBefore := before.any Text.isWord
  let wordAfter := after.any Text.isWord
  match a with
  | textStart => before.isNone
  | textEnd => after.isNone
  | lineStart => before.all (· = '\n')
  | lineEnd => after.all (· = '\n')
  | wordBoundary => wordBefore != wordAfter
  | notWordBoundary => wordBefore == wordAfter
  | wordStart => !wordBefore && wordAfter
  | wordEnd => wordBefore && !wordAfter
  | wordStartHalf => !wordBefore
  | wordEndHalf => !wordAfter

end Pattern

/-- A regular expression. -/
inductive Pattern where
  | empty
  | one (set : Pattern.CharSet)
  | assert (condition : Pattern.Assertion)
  | seq (p q : Pattern)
  | alt (p q : Pattern)
  | times (p : Pattern) (least : Nat) (most : Option Nat)
  deriving DecidableEq, Repr

namespace Pattern

/-- One mark for each place of a text. -/
abbrev Marks := List Bool

/-- The characters before and after each place of a text. -/
def surroundings (before : Option Char) : List Char → List (Option Char × Option Char)
  | [] => [(before, none)]
  | c :: rest => (before, some c) :: surroundings (some c) rest

/-- Moves every mark over the character behind it, if that is in the set. -/
def advance (text : List Char) (set : CharSet) (marks : Marks) : Marks :=
  false :: List.zipWith (fun m c => m && set.has c) marks text

/-- Keeps the marks where a condition holds. -/
def restrict (text : List Char) (a : Assertion) (marks : Marks) : Marks :=
  List.zipWith (fun m (s : Option Char × Option Char) => m && a.holds s.1 s.2) marks
    (surroundings none text)

def merge (a b : Marks) : Marks :=
  List.zipWith or a b

/-- Applies a step up to `n` times, stopping when it changes nothing. -/
def iterate (step : Marks → Marks) : (n : Nat) → Marks → Marks
  | 0, marks => marks
  | n + 1, marks =>
    let next := step marks
    if next = marks then marks else iterate step n next

/-- The places where a match begun at a marked place can end. Every turn of an unbounded repetition
marks a new place or is the last, so one turn for each place is enough. -/
def ends (text : List Char) : Pattern → Marks → Marks
  | empty, marks => marks
  | one set, marks => advance text set marks
  | assert a, marks => restrict text a marks
  | seq p q, marks => ends text q (ends text p marks)
  | alt p q, marks => merge (ends text p marks) (ends text q marks)
  | times p least most, marks =>
    let start := iterate (ends text p) least marks
    let more := match most with
      | some n => n - least
      | none => text.length + 1
    iterate (fun m => merge m (ends text p m)) more start

/-- Whether the pattern matches somewhere in the text. -/
def search (p : Pattern) (text : String) : Bool :=
  let s := text.toList
  (ends s p (List.replicate (s.length + 1) true)).any id

end Pattern

end ArchAtlas
