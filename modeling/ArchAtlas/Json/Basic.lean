/-!
JSON values. The members of an object keep the order in which they were written; `Json.ofMembers`
builds the object in which keys increase and the last of two equal keys counts.
-/

namespace ArchAtlas

/-- A JSON value. Whole numbers and floating point numbers are told apart. -/
inductive Json where
  | null
  | bool (value : Bool)
  | int (value : Int)
  | float (value : Float)
  | str (value : String)
  | arr (items : List Json)
  | obj (members : List (String × Json))
  deriving Repr, Inhabited

namespace Json

/-- Puts a member into a list ordered by key, in place of a member with the same key. -/
def insertMember {α : Type} (key : String) (value : α) : List (String × α) → List (String × α)
  | [] => [(key, value)]
  | (k, v) :: rest =>
    if key < k then (key, value) :: (k, v) :: rest
    else if key = k then (key, value) :: rest
    else (k, v) :: insertMember key value rest

/-- Members ordered by key, each key with the last of its values. -/
def sortMembers {α : Type} (members : List (String × α)) : List (String × α) :=
  members.foldl (fun acc m => insertMember m.1 m.2 acc) []

/-- The object with the given members, ordered by key. -/
def ofMembers (members : List (String × Json)) : Json :=
  .obj (sortMembers members)

/-- The value of a member, if the value is an object that has it. -/
def get? (json : Json) (key : String) : Option Json :=
  match json with
  | .obj members => members.lookup key
  | _ => none

end Json

end ArchAtlas
