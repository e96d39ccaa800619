import ArchAtlas.Codec.Medium
import ArchAtlas.Yaml.Node
import ArchAtlas.Yaml.Plain

/-!
YAML as a notation that records can be read from. What a plain scalar stands for depends on what is
asked for: a text is taken as written, while numbers and flags are read from plain scalars only. A
scalar in which nothing is written stands for an empty sequence or record too, and so does a document
without a root.
-/

namespace ArchAtlas.Yaml

/-- A node within its document; there may be none. -/
structure Value where
  anchors : List (Nat × Node)
  node : Option Node

namespace Value

def ofDocument (d : Document) : Value := ⟨d.anchors, d.root⟩

/-- Another node of the same document. -/
def withNode (v : Value) (node : Node) : Value := { v with node := some node }

/-- The node that the value stands for: an alias stands for an anchored node. -/
def target? (v : Value) : Option Node :=
  match v.node with
  | some (.reference n) => v.anchors.lookup n
  | node => node

/-- The tag of the standard type with a name. -/
def standardTag (name : String) : String := "tag:yaml.org,2002:" ++ name

/-- Whether a scalar can be read as the standard type with a name: it is plain, or a literal block
tagged with the type. -/
def isReadable (name : String) (tag : Option String) (style : Style) : Bool :=
  style = .plain || (style = .literal && tag = some (standardTag name))

/-- Reads a scalar as the standard type with a name. -/
def readScalar {α : Type} (name : String) (read : String → Option α) (v : Value) : Except Fault α :=
  match v.target? with
  | some (.scalar _ tag style text) =>
    if isReadable name tag style then
      match read text with
      | some a => .ok a
      | none => .error .unreadable
    else .error .unreadable
  | _ => .error .unreadable

def text (v : Value) : Except Fault String :=
  match v.target? with
  | some (.scalar _ _ _ text) => .ok text
  | _ => .error .unreadable

/-- Whether nothing is written. -/
def isBlank (v : Value) : Bool :=
  match v.target? with
  | none => true
  | some (.scalar _ _ style text) => style = .plain && text = ""
  | _ => false

/-- Whether the value stands for nothing. Under the tag for nothing, something else is a fault. -/
def isNull (v : Value) : Except Fault Bool :=
  match v.target? with
  | none => .ok true
  | some (.scalar _ tag .plain text) =>
    match tag with
    | none => .ok (text = "" || Plain.isNull text)
    | some tag =>
      if tag ≠ standardTag "null" then .ok false
      else if Plain.isNull text then .ok true
      else .error .unreadable
  | some _ => .ok false

def items (v : Value) : Except Fault (List Value) :=
  match v.target? with
  | some (.seq _ items) => .ok (items.map v.withNode)
  | _ => if v.isBlank then .ok [] else .error .unreadable

/-- The entries of a mapping, whose keys must be scalars. -/
def readEntries (v : Value) : List (Node × Node) → Except Fault (List (String × Value))
  | [] => .ok []
  | (key, value) :: rest =>
    match (v.withNode key).text, readEntries v rest with
    | .ok name, .ok entries => .ok ((name, v.withNode value) :: entries)
    | _, _ => .error .unreadable

def entries (v : Value) : Except Fault (List (String × Value)) :=
  match v.target? with
  | some (.map _ entries) => v.readEntries entries
  | _ => if v.isBlank then .ok [] else .error .unreadable

def fields (v : Value) : Except Fault (Shape Value) :=
  match v.target? with
  | some (.seq _ items) => .ok (.positional (items.map v.withNode))
  | _ => v.entries.map .named

instance : Medium Value where
  text
  flag := readScalar "bool" Plain.flag?
  word width := readScalar "int" fun s => Plain.word? width.size s.toList
  real := readScalar "float" fun s => Plain.real? s.toList
  timestamp := text
  isNull
  items
  entries
  fields _ := fields
  variant v := v.text.map fun name => (name, none)
  unit v := do if ← v.isNull then return () else throw .unreadable

end Value

end ArchAtlas.Yaml
