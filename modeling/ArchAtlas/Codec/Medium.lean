import ArchAtlas.Codec.Fault
import ArchAtlas.Json.Lexed

/-!
What decoding asks of a notation. A `Medium` is a notation whose values can be looked at as texts,
flags, numbers, sequences and records; the instances here are JSON values and JSON text whose scalars
are still as written.
-/

namespace ArchAtlas

/-- The two ways to write a record: by field name, or as the sequence of its fields. -/
inductive Shape (ν : Type) where
  | named (members : List (String × ν))
  | positional (items : List ν)

/-- A notation that records can be read from. -/
class Medium (ν : Type) where
  text : ν → Except Fault String
  flag : ν → Except Fault Bool
  word : Width → ν → Except Fault Nat
  real : ν → Except Fault Float
  /-- The text of a timestamp. -/
  timestamp : ν → Except Fault String
  /-- Whether the value stands for nothing. -/
  isNull : ν → Except Fault Bool
  items : ν → Except Fault (List ν)
  /-- The entries of a table. -/
  entries : ν → Except Fault (List (String × ν))
  /-- The fields of the record with the given name. -/
  fields : String → ν → Except Fault (Shape ν)
  /-- The name of a variant, and what is attached to it. -/
  variant : ν → Except Fault (String × Option ν)
  /-- Succeeds on the value that carries nothing. -/
  unit : ν → Except Fault Unit

namespace Json

def found : Json → Found
  | .null => .null
  | .bool b => .bool b
  | .int n => .int n
  | .float x => .float x
  | .str s => .str s
  | .arr _ => .sequence
  | .obj _ => .map

def mismatch {α : Type} (json : Json) (wanted : Wanted) : Except Fault α :=
  .error (.wrongType json.found wanted)

/-- JSON values: whole numbers stand for floating point numbers too, and a variant is a string or an
object with a single key. -/
instance : Medium Json where
  text
    | .str s => .ok s
    | json => json.mismatch .text
  flag
    | .bool b => .ok b
    | json => json.mismatch .flag
  word width
    | .int n =>
      if 0 ≤ n ∧ n < width.size then .ok n.toNat else .error (.wrongValue (.int n) (.word width))
    | json => json.mismatch (.word width)
  real
    | .float x => .ok x
    | .int n => .ok (Float.ofInt n)
    | json => json.mismatch .real
  timestamp
    | .str s => .ok s
    | json => json.mismatch .timestamp
  isNull
    | .null => .ok true
    | _ => .ok false
  items
    | .arr items => .ok items
    | json => json.mismatch .sequence
  entries
    | .obj members => .ok members
    | json => json.mismatch .map
  fields name
    | .obj members => .ok (.named members)
    | .arr items => .ok (.positional items)
    | json => json.mismatch (.record name)
  variant
    | .str s => .ok (s, none)
    | .obj [(key, value)] => .ok (key, some value)
    | .obj _ => .error (.wrongValue .map .singleKey)
    | json => json.mismatch .variant
  unit
    | .null => .ok ()
    | json => json.mismatch .unit

namespace Lexed

/-- Members with their keys read. -/
def readMembers : List (List Char × Lexed) → Except Fault (List (String × Lexed))
  | [] => .ok []
  | (key, value) :: rest =>
    match string? key, readMembers rest with
    | some k, .ok members => .ok ((k, value) :: members)
    | _, _ => .error .unreadable

/-- The scalar's value, where it has one. -/
def scalar? : Lexed → Option Json
  | .null => some .null
  | .bool b => some (.bool b)
  | .number lexeme => number? lexeme
  | .string lexeme => (string? lexeme).map .str
  | _ => none

/-- Reads a scalar as JSON values are read. -/
def viaScalar {α : Type} (read : Json → Except Fault α) (lexed : Lexed) : Except Fault α :=
  match lexed.scalar? with
  | some json => read json
  | none => .error .unreadable

/-- JSON text: only what a record asks for is given a value. -/
instance : Medium Lexed where
  text := viaScalar Medium.text
  flag := viaScalar Medium.flag
  word width := viaScalar (Medium.word width)
  real := viaScalar Medium.real
  timestamp := viaScalar Medium.timestamp
  isNull
    | .null => .ok true
    | _ => .ok false
  items
    | .arr items => .ok items
    | _ => .error .unreadable
  entries
    | .obj members => readMembers members
    | _ => .error .unreadable
  fields _
    | .obj members => (readMembers members).map .named
    | .arr items => .ok (.positional items)
    | _ => .error .unreadable
  variant
    | .string lexeme => (viaScalar Medium.text (.string lexeme)).map fun s => (s, none)
    | .obj [(key, value)] =>
      match string? key with
      | some k => .ok (k, some value)
      | none => .error .unreadable
    | _ => .error .unreadable
  unit := viaScalar Medium.unit

end Lexed

end Json

end ArchAtlas
