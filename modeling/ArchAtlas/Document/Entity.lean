import ArchAtlas.Facts.Codec

/-!
Entities: the declared types of a document, with their members.
-/

namespace ArchAtlas

open Codec (text)

inductive EntityKind where
  | classType
  | struct
  | interface
  | enum
  | function
  /-- A node that stands for all entities of a package. -/
  | package
  deriving DecidableEq, Repr

def EntityKind.names : List (String × EntityKind) :=
  [("class", .classType), ("struct", .struct), ("interface", .interface), ("enum", .enum),
    ("function", .function), ("package", .package)]

def EntityKind.codec (ν : Type) [Medium ν] : Codec ν EntityKind := .variants names

/-- Who can see a declaration: everyone, its owner, or its owner and those that inherit from it. -/
inductive Visibility where
  | exposed
  | hidden
  | inherited
  deriving DecidableEq, Repr

def Visibility.names : List (String × Visibility) :=
  [("public", .exposed), ("private", .hidden), ("protected", .inherited)]

def Visibility.codec (ν : Type) [Medium ν] : Codec ν Visibility := .variants names

/-- What is exported is public. -/
def Visibility.ofExported (exported : Bool) : Visibility :=
  if exported then .exposed else .hidden

inductive MemberKind where
  | property
  | field
  | method
  | constructor
  deriving DecidableEq, Repr

def MemberKind.names : List (String × MemberKind) :=
  [("property", .property), ("field", .field), ("method", .method), ("constructor", .constructor)]

def MemberKind.codec (ν : Type) [Medium ν] : Codec ν MemberKind := .variants names

/-- A parameter of a method. -/
structure Parameter where
  name : String
  typeName : String
  deriving DecidableEq, Repr

structure Member where
  name : String
  kind : MemberKind
  visibility : Visibility
  returnType : Option String := none
  parameters : Option (List Parameter) := none
  fieldType : Option String := none
  isStatic : Bool := false
  isAsync : Bool := false
  isAbstract : Bool := false
  deriving DecidableEq, Repr

/-- A declared type. -/
structure Entity where
  id : String
  name : String
  kind : EntityKind
  visibility : Visibility
  members : List Member
  location : Span
  deriving DecidableEq, Repr

/-- The names of the methods, in order of declaration. -/
def Entity.methodNames (e : Entity) : List String :=
  (e.members.filter fun m => m.kind = .method).map Member.name

section Codecs

variable (ν : Type) [Medium ν]

def Parameter.codec : Codec ν Parameter :=
  .record "Parameter"
    (.cons (.required "name" text) <|
      .cons (.required "type" text) .nil)
    (fun (name, typeName, _) => ⟨name, typeName⟩)
    (fun p => (p.name, p.typeName, ()))

def Member.codec : Codec ν Member :=
  .record "Member"
    (.cons (.required "name" text) <|
      .cons (.required "type" (MemberKind.codec ν)) <|
      .cons (.required "visibility" (Visibility.codec ν)) <|
      .cons (.optional "returnType" text) <|
      .cons (.optional "parameters" (Parameter.codec ν).list) <|
      .cons (.optional "fieldType" text) <|
      .cons (.mark "isStatic") <|
      .cons (.mark "isAsync") <|
      .cons (.mark "isAbstract") .nil)
    (fun (name, kind, visibility, returnType, parameters, fieldType, isStatic, isAsync, isAbstract,
        _) =>
      ⟨name, kind, visibility, returnType, parameters, fieldType, isStatic, isAsync, isAbstract⟩)
    (fun m => (m.name, m.kind, m.visibility, m.returnType, m.parameters, m.fieldType, m.isStatic,
      m.isAsync, m.isAbstract, ()))

def Entity.codec : Codec ν Entity :=
  .record "Entity"
    (.cons (.required "id" text) <|
      .cons (.required "name" text) <|
      .cons (.required "type" (EntityKind.codec ν)) <|
      .cons (.required "visibility" (Visibility.codec ν)) <|
      .cons (.defaulted "members" (Member.codec ν).list []) <|
      .cons (.required "sourceLocation" (Span.entityCodec ν)) .nil)
    (fun (id, name, kind, visibility, members, location, _) =>
      ⟨id, name, kind, visibility, members, location⟩)
    (fun e => (e.id, e.name, e.kind, e.visibility, e.members, e.location, ()))

end Codecs

end ArchAtlas
