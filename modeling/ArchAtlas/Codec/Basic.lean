import ArchAtlas.Codec.Medium

/-!
Codecs: how a model type is written as a JSON value and read from a notation.

A record is described once, by its `Fields`, and written and read from that description. Reading a
record goes by the members in the order they are written: the first member that does not fit gives the
fault, and only if all fit is a missing field reported, in the order of the description. A record may
also be written as the sequence of its fields.
-/

namespace ArchAtlas

/-- How a type is written as JSON and read from the notation `ν`. -/
structure Codec (ν α : Type) where
  encode : α → Json
  decode : ν → Except Fault α

namespace Codec

variable {ν : Type} [Medium ν] {α β : Type}

def text : Codec ν String := ⟨.str, Medium.text⟩

def flag : Codec ν Bool := ⟨.bool, Medium.flag⟩

def u32 : Codec ν UInt32 :=
  ⟨fun n => .int n.toNat, fun v => (Medium.word .u32 v).map Nat.toUInt32⟩

def u64 (width : Width) : Codec ν UInt64 :=
  ⟨fun n => .int n.toNat, fun v => (Medium.word width v).map Nat.toUInt64⟩

/-- A number of things. -/
def count : Codec ν Nat := ⟨fun n => .int n, Medium.word .usize⟩

/-- A floating point number. JSON has no text for infinities and for what is no number, so they are
written as null. -/
def real : Codec ν Float :=
  ⟨fun x => if x.isFinite then .float x else .null, Medium.real⟩

def timestamp : Codec ν Timestamp where
  encode t := .str t.render
  decode v := do
    let s ← Medium.timestamp v
    match Timestamp.parse s with
    | .ok t => return t
    | .error cause => throw (.timestamp cause)

def option (c : Codec ν α) : Codec ν (Option α) where
  encode
    | none => .null
    | some a => c.encode a
  decode v :=
    match Medium.isNull v with
    | .error fault => .error fault
    | .ok true => .ok none
    | .ok false => (c.decode v).map some

/-- Reads the items of a sequence in order. -/
def decodeItems (c : Codec ν α) : List ν → Except Fault (List α)
  | [] => .ok []
  | v :: rest =>
    match c.decode v with
    | .error fault => .error fault
    | .ok a =>
      match decodeItems c rest with
      | .error fault => .error fault
      | .ok as => .ok (a :: as)

def list (c : Codec ν α) : Codec ν (List α) where
  encode as := .arr (as.map c.encode)
  decode v := (Medium.items v).bind (decodeItems c)

/-- Reads the entries of a table in order; of two entries with one key the last counts. -/
def decodeEntries (c : Codec ν α) (acc : List (String × α)) :
    List (String × ν) → Except Fault (List (String × α))
  | [] => .ok acc
  | (key, v) :: rest =>
    match c.decode v with
    | .error fault => .error fault
    | .ok a => decodeEntries c (Json.insertMember key a acc) rest

/-- A table from names to values, ordered by name. -/
def table (c : Codec ν α) : Codec ν (List (String × α)) where
  encode entries := .obj (entries.map fun e => (e.1, c.encode e.2))
  decode v := (Medium.entries v).bind (decodeEntries c [])

/-- An enumeration: each variant with its name, in the order in which messages list them. -/
def variants [BEq α] (names : List (String × α)) : Codec ν α where
  encode a := .str ((names.find? fun n => n.2 == a).elim "" Prod.fst)
  decode v := do
    let (name, attached) ← Medium.variant v
    match names.lookup name with
    | none => throw (.unknownVariant name (names.map Prod.fst))
    | some a =>
      match attached with
      | none => return a
      | some payload =>
        Medium.unit payload
        return a

end Codec

/-- A field of a record. Without a value for `absent` the field must be there; `skip` says which values
are left out in writing. -/
structure Field (ν α : Type) where
  key : String
  codec : Codec ν α
  absent : Option α := none
  skip : α → Bool := fun _ => false

namespace Field

variable {ν α : Type}

/-- A field that must be there. -/
def required (key : String) (codec : Codec ν α) : Field ν α :=
  { key, codec }

/-- A field that has a default. -/
def defaulted (key : String) (codec : Codec ν α) (value : α) : Field ν α :=
  { key, codec, absent := some value }

/-- A field that is left out when it has no value. -/
def optional [Medium ν] (key : String) (codec : Codec ν α) : Field ν (Option α) :=
  { key, codec := codec.option, absent := some none, skip := Option.isNone }

/-- A flag that is written only when it is set. -/
def mark [Medium ν] (key : String) : Field ν Bool :=
  { key, codec := .flag, absent := some false, skip := not }

/-- A list that is left out when it is empty. -/
def unlessEmpty [Medium ν] (key : String) (codec : Codec ν α) : Field ν (List α) :=
  { key, codec := codec.list, absent := some [], skip := List.isEmpty }

/-- The first member with the field's key, counted from `start`, and the position of a second one. -/
def locate (key : String) (start : Nat) : List (String × ν) → Option (Nat × ν × Option Nat)
  | [] => none
  | (k, v) :: rest =>
    if k = key then some (start, v, (locate key (start + 1) rest).map Prod.fst)
    else locate key (start + 1) rest

/-- Reads the field from the members of a record. A fault carries the position of the member that
causes it; a missing field counts as a fault behind all members. -/
def read (field : Field ν α) (members : List (String × ν)) : Except (Nat × Fault) α :=
  match locate field.key 0 members with
  | some (position, v, again) =>
    match field.codec.decode v with
    | .error fault => .error (position, fault)
    | .ok a =>
      match again with
      | some second => .error (second, .repeatedField field.key)
      | none => .ok a
  | none =>
    match field.absent with
    | some a => .ok a
    | none => .error (members.length, .missingField field.key)

/-- The member that the field is written as. -/
def write (field : Field ν α) (a : α) : List (String × Json) :=
  if field.skip a then [] else [(field.key, field.codec.encode a)]

end Field

/-- The fields of a record in order, with the product of their types. -/
inductive Fields (ν : Type) : Type → Type 1 where
  | nil : Fields ν Unit
  | cons {α π : Type} (field : Field ν α) (rest : Fields ν π) : Fields ν (α × π)

namespace Fields

variable {ν : Type}

def keys {π : Type} : Fields ν π → List String
  | .nil => []
  | .cons field rest => field.key :: rest.keys

/-- Both results, or the fault of the earlier member; the first of two at the same position. -/
def earlier {α β : Type} (a : Except (Nat × Fault) α) (b : Except (Nat × Fault) β) :
    Except (Nat × Fault) (α × β) :=
  match a, b with
  | .ok a, .ok b => .ok (a, b)
  | .error e, .ok _ => .error e
  | .ok _, .error f => .error f
  | .error e, .error f => .error (if f.1 < e.1 then f else e)

/-- Reads every field from the members of a record. -/
def read {π : Type} (members : List (String × ν)) : Fields ν π → Except (Nat × Fault) π
  | .nil => .ok ()
  | .cons field rest => earlier (field.read members) (rest.read members)

/-- Reads the fields from the items of a record written as a sequence; `index` fields of `record` have
been read. -/
def readItems {π : Type} (record : String) (total : Nat) (index : Nat) (items : List ν) :
    Fields ν π → Except Fault π
  | .nil => if items.isEmpty then .ok () else .error (.tooMany (index + items.length))
  | .cons field rest =>
    match items with
    | v :: items =>
      match field.codec.decode v with
      | .error fault => .error fault
      | .ok a => (rest.readItems record total (index + 1) items).map fun r => (a, r)
    | [] =>
      match field.absent with
      | some a => (rest.readItems record total (index + 1) []).map fun r => (a, r)
      | none => .error (.tooFew index record total)

/-- The members that the fields are written as. -/
def write {π : Type} : Fields ν π → π → List (String × Json)
  | .nil, _ => []
  | .cons field rest, (a, r) => field.write a ++ rest.write r

/-- The first member whose key is not known, with its position counted from `start`. -/
def firstUnknown (known : List String) (start : Nat) : List (String × ν) → Option (Nat × String)
  | [] => none
  | (k, _) :: rest => if k ∈ known then firstUnknown known (start + 1) rest else some (start, k)

/-- Reads a record from its members. A `closed` record has no other members. -/
def readMembers {π : Type} (fields : Fields ν π) (closed : Bool) (members : List (String × ν)) :
    Except Fault π :=
  let unknown : Except (Nat × Fault) Unit :=
    match closed, firstUnknown fields.keys 0 members with
    | true, some (position, key) => .error (position, .unknownField key fields.keys)
    | _, _ => .ok ()
  match earlier unknown (fields.read members) with
  | .ok (_, r) => .ok r
  | .error (_, fault) => .error fault

end Fields

namespace Codec

variable {ν : Type} [Medium ν] {α π : Type}

/-- A record with the given name in messages, fields, and passage to and from their product. -/
def recordWith (closed : Bool) (name : String) (fields : Fields ν π) (build : π → α)
    (view : α → π) : Codec ν α where
  encode a := .obj (fields.write (view a))
  decode v := do
    match ← Medium.fields name v with
    | .named members => (fields.readMembers closed members).map build
    | .positional items => (fields.readItems name fields.keys.length 0 items).map build

/-- A record in which unknown members are ignored. -/
def record (name : String) (fields : Fields ν π) (build : π → α) (view : α → π) : Codec ν α :=
  recordWith false name fields build view

end Codec

end ArchAtlas
