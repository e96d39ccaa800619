import ArchAtlas.Decimal.Layout
import ArchAtlas.Text.Quoted
import ArchAtlas.Timestamp

/-!
Why a value does not fit a model type. A `Fault` names the cause; `Fault.message` words it.
-/

namespace ArchAtlas

/-- What stands where something else is wanted. -/
inductive Found where
  | null
  | bool (value : Bool)
  | int (value : Int)
  | float (value : Float)
  | str (value : String)
  | sequence
  | map
  deriving DecidableEq, Repr

def Found.describe : Found → String
  | .null => "null"
  | .bool b => "boolean `" ++ (if b then "true" else "false") ++ "`"
  | .int n => "integer `" ++ toString n ++ "`"
  | .float x => "floating point `" ++ Decimal.Layout.pointed.render x ++ "`"
  | .str s => "string " ++ Text.quoted s
  | .sequence => "sequence"
  | .map => "map"

/-- The widths of the whole numbers of the model. -/
inductive Width where
  | u32
  | u64
  | usize
  deriving DecidableEq, Repr

/-- The number of values of a width. -/
def Width.size : Width → Nat
  | .u32 => 0x100000000
  | .u64 => 0x10000000000000000
  | .usize => 0x10000000000000000

def Width.name : Width → String
  | .u32 => "u32"
  | .u64 => "u64"
  | .usize => "usize"

/-- What is wanted. -/
inductive Wanted where
  | text
  | flag
  | sequence
  | map
  | word (width : Width)
  | real
  | record (name : String)
  | variant
  | unit
  | singleKey
  | timestamp
  deriving DecidableEq, Repr

def Wanted.describe : Wanted → String
  | .text => "a string"
  | .flag => "a boolean"
  | .sequence => "a sequence"
  | .map => "a map"
  | .word width => width.name
  | .real => "f64"
  | .record name => "struct " ++ name
  | .variant => "string or map"
  | .unit => "unit"
  | .singleKey => "map with a single key"
  | .timestamp => "an RFC 3339 formatted date and time string"

/-- Why a value does not fit a model type. -/
inductive Fault where
  /-- The value is of another kind. -/
  | wrongType (found : Found) (wanted : Wanted)
  /-- The value is of the right kind and out of bounds. -/
  | wrongValue (found : Found) (wanted : Wanted)
  /-- A record lacks a field that has no default. -/
  | missingField (key : String)
  /-- A record has a field twice. -/
  | repeatedField (key : String)
  /-- A record that allows no other fields has one. -/
  | unknownField (key : String) (known : List String)
  /-- An enumeration has no such name. -/
  | unknownVariant (name : String) (known : List String)
  /-- A record written as a sequence ends before a field without default. -/
  | tooFew (count : Nat) (record : String) (fields : Nat)
  /-- A record written as a sequence has more items than fields. -/
  | tooMany (count : Nat)
  /-- A text is no timestamp. -/
  | timestamp (cause : Timestamp.Fault)
  /-- The value has no reading in its notation. -/
  | unreadable
  deriving DecidableEq, Repr

namespace Fault

/-- A list of names as a message gives it. -/
def oneOf (names : List String) : String :=
  let quoted := names.map fun n => "`" ++ n ++ "`"
  match quoted with
  | [a, b] => a ++ " or " ++ b
  | [a] => a
  | _ => "one of " ++ ", ".intercalate quoted

def message : Fault → String
  | wrongType found wanted =>
    "invalid type: " ++ found.describe ++ ", expected " ++ wanted.describe
  | wrongValue found wanted =>
    "invalid value: " ++ found.describe ++ ", expected " ++ wanted.describe
  | missingField key => "missing field `" ++ key ++ "`"
  | repeatedField key => "duplicate field `" ++ key ++ "`"
  | unknownField key known => "unknown field `" ++ key ++ "`, expected " ++ oneOf known
  | unknownVariant name known => "unknown variant `" ++ name ++ "`, expected " ++ oneOf known
  | tooFew count record fields =>
    "invalid length " ++ toString count ++ ", expected struct " ++ record ++ " with " ++
      toString fields ++ (if fields = 1 then " element" else " elements")
  | tooMany count =>
    "invalid length " ++ toString count ++ ", expected fewer elements in array"
  | timestamp cause => cause.message
  | unreadable => "unreadable value"

end Fault

end ArchAtlas
