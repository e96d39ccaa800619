import ArchAtlas.Yaml.Scalar

/-!
The tokens of YAML text. Indentation becomes tokens of its own: where a block is opened by a deeper
column, and where it ends.

A key needs no mark before it. So every token that may start a key is kept as a candidate until its
line ends; when a colon follows, the tokens that open the key are put in before it.
-/

namespace ArchAtlas.Yaml

inductive Token where
  | version (major minor : Nat)
  | tagPrefix (handle start : List Char)
  | documentStart
  | documentEnd
  | blockSequence
  | blockMapping
  | blockEnd
  | sequenceStart
  | sequenceEnd
  | mappingStart
  | mappingEnd
  /-- A comma within brackets. -/
  | separator
  /-- A dash before an item. -/
  | item
  | key
  | value
  | reference (name : List Char)
  | anchor (name : List Char)
  | tag (handle ending : List Char)
  | scalar (style : Style) (text : List Char)
  deriving DecidableEq, Repr

/-- A token that may start a key, by its number and its place. A key is required where a block of
keys is open at that column. -/
structure Candidate where
  required : Bool
  number : Nat
  index : Nat
  line : Nat
  column : Nat
  deriving DecidableEq, Repr

/-- The state of reading tokens. -/
structure Tokenizer where
  cursor : Cursor
  /-- The column of the innermost block; `-1` outside all blocks. -/
  indent : Int
  /-- The columns of the blocks around it. -/
  outer : List Int
  /-- Whether a key may start here. -/
  keyAllowed : Bool
  /-- The candidate of each pair of brackets, the innermost first, and of the block around them. -/
  candidates : List (Option Candidate)
  count : Nat
  /-- The tokens read so far, the latest first. -/
  tokens : List Token
  deriving DecidableEq, Repr

namespace Tokenizer

def start (text : List Char) : Tokenizer :=
  ⟨.start text, -1, [], true, [none], 0, []⟩

/-- Whether the place is within brackets. -/
def inFlow (t : Tokenizer) : Bool :=
  1 < t.candidates.length

def push (t : Tokenizer) (token : Token) : Tokenizer :=
  { t with tokens := token :: t.tokens, count := t.count + 1 }

/-- Puts a token in before the token with the given number. -/
def insert (t : Tokenizer) (number : Nat) (token : Token) : Tokenizer :=
  { t with tokens := t.tokens.insertIdx (t.count - number) token, count := t.count + 1 }

/-- The block that is innermost once the deeper ones are closed, those around it, and how many were
closed. -/
def unwind (column : Int) : (indent : Int) → (outer : List Int) → Int × List Int × Nat
  | indent, [] => (indent, [], 0)
  | indent, o :: os =>
    if column < indent then
      let (i, rest, n) := unwind column o os
      (i, rest, n + 1)
    else (indent, o :: os, 0)

/-- Closes the blocks that are deeper than a column. -/
def closeBlocks (t : Tokenizer) (column : Int) : Tokenizer :=
  if t.inFlow then t
  else
    let (indent, outer, n) := unwind column t.indent t.outer
    { t with
      indent, outer
      tokens := List.replicate n .blockEnd ++ t.tokens
      count := t.count + n }

/-- Opens a block at a column, unless one is open there; its token is put in before the token with the
given number. -/
def openBlock (t : Tokenizer) (column number : Nat) (token : Token) : Tokenizer :=
  if t.inFlow || column ≤ t.indent then t
  else { t.insert number token with indent := column, outer := t.indent :: t.outer }

/-- Gives the innermost candidate up; a required one cannot be. -/
def dropCandidate? (t : Tokenizer) : Option Tokenizer :=
  match t.candidates with
  | some candidate :: rest =>
    if candidate.required then none else some { t with candidates := none :: rest }
  | _ => some t

/-- Makes the next token a candidate, where a key may start. -/
def addCandidate? (t : Tokenizer) : Option Tokenizer :=
  if t.keyAllowed then do
    let t ← t.dropCandidate?
    let c := t.cursor
    let required := !t.inFlow && t.indent = c.column
    return { t with
      candidates := some ⟨required, t.count, c.index, c.line, c.column⟩ :: t.candidates.tail }
  else some t

/-- Gives up a candidate on an earlier line, or too far back. -/
def expire? (c : Cursor) : Option Candidate → Option (Option Candidate)
  | none => some none
  | some candidate =>
    if candidate.line < c.line || candidate.index + 1024 < c.index then
      if candidate.required then none else some none
    else some (some candidate)

def expireCandidates? (t : Tokenizer) : Option Tokenizer :=
  (t.candidates.mapM (expire? t.cursor)).map fun candidates => { t with candidates }

/-- Skips blanks, comments and line breaks up to the next token. Tabs count as blanks only where no key
may start; in a block one may after a line break. -/
def skipToToken (flow : Bool) : (fuel : Nat) → (keyAllowed : Bool) → Cursor → Bool × Cursor
  | 0, keyAllowed, c => (keyAllowed, c)
  | fuel + 1, keyAllowed, c =>
    let c := if c.index = 0 && c.isAt '\ufeff' then c.next else c
    let c := c.skip fun ch => ch = ' ' || ((flow || !keyAllowed) && ch = '\t')
    let c := c.skipComment
    match c.break? with
    | some (_, c) => skipToToken flow fuel (keyAllowed || !flow) c
    | none => (keyAllowed, c)

/-- Passes over the characters of a token. -/
def advance (t : Tokenizer) (n : Nat) : Tokenizer :=
  { t with cursor := t.cursor.drop n }

/-- The mark of the start or the end of a document. -/
def documentMark? (t : Tokenizer) (token : Token) : Option Tokenizer := do
  let t ← (t.closeBlocks (-1)).dropCandidate?
  return ({ t with keyAllowed := false }.push token).advance 3

def openFlow? (t : Tokenizer) (token : Token) : Option Tokenizer := do
  let t ← t.addCandidate?
  return ({ t with candidates := none :: t.candidates, keyAllowed := true }.push token).advance 1

def closeFlow? (t : Tokenizer) (token : Token) : Option Tokenizer := do
  let t ← t.dropCandidate?
  let candidates := if t.inFlow then t.candidates.tail else t.candidates
  return ({ t with candidates, keyAllowed := false }.push token).advance 1

def separator? (t : Tokenizer) : Option Tokenizer := do
  let t ← t.dropCandidate?
  return ({ t with keyAllowed := true }.push .separator).advance 1

/-- A mark that opens a block at its column, if it stands in a block where a key may start. -/
def opening? (t : Tokenizer) (token : Token) : Option Tokenizer :=
  if t.inFlow then some t
  else if t.keyAllowed then some (t.openBlock t.cursor.column t.count token)
  else none

def item? (t : Tokenizer) : Option Tokenizer := do
  let t ← (← t.opening? .blockSequence).dropCandidate?
  return ({ t with keyAllowed := true }.push .item).advance 1

def key? (t : Tokenizer) : Option Tokenizer := do
  let t ← (← t.opening? .blockMapping).dropCandidate?
  return ({ t with keyAllowed := !t.inFlow }.push .key).advance 1

/-- A colon makes the innermost candidate a key; without one the key is empty. -/
def value? (t : Tokenizer) : Option Tokenizer := do
  match t.candidates with
  | some candidate :: rest =>
    let t := t.insert candidate.number .key
    let t := t.openBlock candidate.column candidate.number .blockMapping
    return ({ t with candidates := none :: rest, keyAllowed := false }.push .value).advance 1
  | _ =>
    let t ← t.opening? .blockMapping
    return ({ t with keyAllowed := !t.inFlow }.push .value).advance 1

/-- A token that may start a key and that no key may follow on its line. -/
def starting? (t : Tokenizer) (read : Cursor → Option (Token × Cursor)) : Option Tokenizer := do
  let t ← t.addCandidate?
  let (token, cursor) ← read t.cursor
  return { t.push token with cursor, keyAllowed := false }

/-- The name of an anchor or an alias, from its mark on. -/
def name? (make : List Char → Token) (c : Cursor) : Option (Token × Cursor) :=
  let (name, c) := c.next.span isWordChar
  let ends := endsWord c.rest ||
    c.rest.head?.any fun ch => ['?', ':', ',', ']', '}', '%', '@', '\x60'].contains ch
  if name.isEmpty || !ends then none else some (make name, c)

/-- Characters of the part of a tag behind its handle. -/
def isTagChar (c : Char) : Bool :=
  isWordChar c ||
    [';', '/', '?', ':', '@', '&', '=', '+', '$', '.', '%', '!', '~', '*', '\'', '(', ')'].contains c

/-- Characters of a tag in full and of a prefix of tags. -/
def isUriChar (c : Char) : Bool :=
  isTagChar c || c = ',' || c = '[' || c = ']'

/-- The bytes written as a percent sign and two hexadecimal digits, `n` of them. -/
def percentBytes? : (n : Nat) → List Char → Option (List Nat × List Char)
  | 0, s => some ([], s)
  | n + 1, '%' :: a :: b :: s =>
    if isHexDigit a && isHexDigit b then
      (percentBytes? n s).map fun (bytes, rest) => (ofHexDigits [a, b] :: bytes, rest)
    else none
  | _ + 1, _ => none

/-- How many bytes the encoding of a character takes, by its first byte. -/
def byteWidth? (first : Nat) : Option Nat :=
  if first < 0x80 then some 1
  else if first / 0x20 = 6 then some 2
  else if first / 0x10 = 14 then some 3
  else if first / 8 = 30 then some 4
  else none

/-- A character written byte by byte with percent signs. -/
def percentChar? (s : List Char) : Option (Char × List Char) := do
  let (firsts, _) ← percentBytes? 1 s
  let first ← firsts.head?
  let width ← byteWidth? first
  let (bytes, rest) ← percentBytes? width s
  if bytes.tail.all fun b => b / 0x40 = 2 then
    let leading := if width = 1 then first else first % Nat.pow 2 (7 - width)
    return (Char.ofNat (bytes.tail.foldl (fun n b => 64 * n + b % 64) leading), rest)
  else none

/-- Replaces the characters written with percent signs. -/
def unescapeTag? : (fuel : Nat) → List Char → Option (List Char)
  | 0, _ => some []
  | _ + 1, [] => some []
  | fuel + 1, '%' :: s =>
    match percentChar? ('%' :: s) with
    | some (c, rest) => (unescapeTag? fuel rest).map (c :: ·)
    | none => none
  | fuel + 1, c :: s => (unescapeTag? fuel s).map (c :: ·)

/-- The part of a tag behind its handle. -/
def tagPart? (p : Char → Bool) (c : Cursor) : Option (List Char × Cursor) := do
  let (written, after) := c.span p
  let part ← unescapeTag? written.length written
  return (part, after)

/-- The handle of a tag: an exclamation mark, or a word between two. -/
def handle (c : Cursor) : List Char × Cursor :=
  let (word, after) := c.next.span isWordChar
  if after.isAt '!' then ('!' :: word ++ ['!'], after.next) else ('!' :: word, after)

/-- A tag, from its exclamation mark on. -/
def tag? (flow : Bool) (c : Cursor) : Option (Token × Cursor) := do
  let (token, c) ←
    if c.next.isAt '<' then do
      let (full, c) ← tagPart? isUriChar (c.drop 2)
      if full.isEmpty || !c.isAt '>' then none
      else some (Token.tag [] full, c.next)
    else do
      let (first, after) := handle c
      if 1 < first.length && first.getLast? = some '!' then do
        let (part, c) ← tagPart? isTagChar after
        if part.isEmpty then none else some (Token.tag first part, c)
      else do
        let (part, c) ← tagPart? isTagChar after
        let whole := first.tail ++ part
        some (if whole.isEmpty then (Token.tag [] ['!'], c) else (Token.tag ['!'] whole, c))
  if endsWord c.rest || (flow && c.isAt ',') then some (token, c) else none

/-- A number of a version. -/
def versionPart? (c : Cursor) : Option (Nat × Cursor) :=
  let (digits, c) := c.span Char.isDigit
  if digits.isEmpty || 9 < digits.length then none
  else some (digits.foldl (fun n d => 10 * n + (d.toNat - '0'.toNat)) 0, c)

def version? (c : Cursor) : Option (Token × Cursor) := do
  let (major, c) ← versionPart? (c.skip isSpace)
  if c.isAt '.' then
    let (minor, c) ← versionPart? c.next
    return (.version major minor, c)
  else none

def tagPrefix? (c : Cursor) : Option (Token × Cursor) := do
  let c := c.skip isSpace
  if !c.isAt '!' then none
  else
    let (first, c) := handle c
    if first ≠ ['!'] && (first.length < 2 || first.getLast? ≠ some '!') then none
    else if !(c.rest.head?.any isSpace) then none
    else
      let (start, c) ← tagPart? isUriChar (c.skip isSpace)
      if start.isEmpty || !endsWord c.rest then none
      else return (.tagPrefix first start, c)

/-- A directive, from its percent sign to the end of its line. -/
def directive? (t : Tokenizer) : Option Tokenizer := do
  let t ← (t.closeBlocks (-1)).dropCandidate?
  let (name, c) := t.cursor.next.span isWordChar
  if !endsWord c.rest then none
  else
    let (token, c) ←
      if name = "YAML".toList then version? c
      else if name = "TAG".toList then tagPrefix? c
      else none
    let cursor ← c.endLine?
    return { t.push token with cursor, keyAllowed := false }

/-- A block scalar; a key may start behind it. -/
def blockScalar? (t : Tokenizer) (literal : Bool) : Option Tokenizer := do
  let t ← t.dropCandidate?
  let (text, cursor) ← Scalar.block? literal t.indent t.cursor
  return { t.push (.scalar (if literal then .literal else .folded) text) with
    cursor, keyAllowed := true }

/-- A plain scalar; a key may start behind it if it ends in a line break. -/
def plainScalar? (t : Tokenizer) : Option Tokenizer := do
  let t ← t.addCandidate?
  let (text, broken, cursor) ← Scalar.plain? t.inFlow (t.indent + 1).toNat t.cursor
  return { t.push (.scalar .plain text) with cursor, keyAllowed := broken }

def quotedScalar (single : Bool) (c : Cursor) : Option (Token × Cursor) :=
  (Scalar.quoted? single c).map fun (text, c) =>
    (.scalar (if single then .single else .double) text, c)

/-- The characters that do not start a plain scalar. -/
def indicators : List Char :=
  ['-', '?', ':', ',', '[', ']', '{', '}', '#', '&', '*', '!', '|', '>', '\'', '"', '%', '@', '\x60']

/-- Whether a plain scalar starts with this character: one that is no indicator, a dash before
something that is no blank, and in a block a question mark or a colon within a word. -/
def startsPlain (flow : Bool) (c : Char) (rest : List Char) : Bool :=
  (!endsWord [c] && !indicators.contains c) ||
    (c = '-' && !rest.head?.any isSpace) ||
    (!flow && (c = '?' || c = ':') && !endsWord rest)

/-- Reads the token that starts with a character. -/
def token? (t : Tokenizer) (c : Char) (rest : List Char) : Option Tokenizer :=
  let lineStart := t.cursor.column = 0
  if lineStart && c = '%' then t.directive?
  else if lineStart && isMark '-' (c :: rest) then t.documentMark? .documentStart
  else if lineStart && isMark '.' (c :: rest) then t.documentMark? .documentEnd
  else if c = '[' then t.openFlow? .sequenceStart
  else if c = '{' then t.openFlow? .mappingStart
  else if c = ']' then t.closeFlow? .sequenceEnd
  else if c = '}' then t.closeFlow? .mappingEnd
  else if c = ',' then t.separator?
  else if c = '-' && endsWord rest then t.item?
  else if c = '?' && (t.inFlow || endsWord rest) then t.key?
  else if c = ':' && (t.inFlow || endsWord rest) then t.value?
  else if c = '*' then t.starting? (name? .reference)
  else if c = '&' then t.starting? (name? .anchor)
  else if c = '!' then t.starting? (tag? t.inFlow)
  else if c = '|' && !t.inFlow then t.blockScalar? true
  else if c = '>' && !t.inFlow then t.blockScalar? false
  else if c = '\'' then t.starting? (quotedScalar true)
  else if c = '"' then t.starting? (quotedScalar false)
  else if startsPlain t.inFlow c rest then t.plainScalar?
  else none

/-- Reads tokens up to the end of the text. Every turn but the last uses up a character. -/
def run? : (fuel : Nat) → Tokenizer → Option (List Token)
  | 0, _ => none
  | fuel + 1, t => do
    let (keyAllowed, cursor) :=
      skipToToken t.inFlow (t.cursor.rest.length + 1) t.keyAllowed t.cursor
    let t ← { t with keyAllowed, cursor }.expireCandidates?
    let t := t.closeBlocks t.cursor.column
    match t.cursor.rest with
    | [] => (t.closeBlocks (-1)).dropCandidate?.map fun t => t.tokens.reverse
    | c :: rest => run? fuel (← t.token? c rest)

end Tokenizer

/-- The tokens of a text, if it has only characters that are allowed. -/
def tokens? (text : List Char) : Option (List Token) :=
  if text.all isAllowed then (Tokenizer.start text).run? (text.length + 1) else none

end ArchAtlas.Yaml
