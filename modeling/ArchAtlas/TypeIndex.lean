import ArchAtlas.Facts.Basic
import ArchAtlas.TypeName

/-!
Looking declared types up by the text of a field's type. A qualified type is found only through its
qualifier, which is the short name or the path of a package; an unqualified one only in the package
that uses it. Of two declarations under one key the first counts, interfaces before structs within a
package.
-/

namespace ArchAtlas

inductive DeclaredKind where
  | struct
  | interface
  deriving DecidableEq, Repr

/-- A declared type with the package that declares it. -/
structure Declaration where
  package : Facts.Package
  type : Facts.TypeDecl
  kind : DeclaredKind
  deriving DecidableEq, Repr

namespace Declaration

def id (d : Declaration) : String := d.package.typeId d.type

/-- The declared types of a package, interfaces first. -/
def ofPackage (p : Facts.Package) : List Declaration :=
  (p.interfaces.map fun t => ⟨p, t, .interface⟩) ++ (p.structs.map fun t => ⟨p, t, .struct⟩)

/-- The declared types of a project, package by package. -/
def ofProject (p : Facts.Project) : List Declaration :=
  p.packages.flatMap ofPackage

end Declaration

/-- A key under which a type is looked up. -/
def typeKey (package name : String) : String :=
  package ++ ":" ++ name

/-- The declared types of a project by key and by id, in order of declaration. -/
structure TypeIndex where
  byKey : List (String × String)
  kinds : List (String × DeclaredKind)
  names : List String
  deriving Repr

namespace TypeIndex

def build (p : Facts.Project) : TypeIndex :=
  let declared := Declaration.ofProject p
  { byKey := declared.flatMap fun d =>
      [(typeKey d.package.name d.type.name, d.id), (typeKey d.package.path d.type.name, d.id)]
    kinds := declared.map fun d => (d.id, d.kind)
    names := declared.map fun d => d.type.name }

/-- The id of the type that a field type refers to in a package. -/
def resolve? (index : TypeIndex) (packagePath fieldType : String) : Option String :=
  let bare := TypeName.bare fieldType
  if bare ∈ index.names then
    index.byKey.lookup (typeKey ((TypeName.qualifier? fieldType).getD packagePath) bare)
  else none

def kind? (index : TypeIndex) (id : String) : Option DeclaredKind :=
  index.kinds.lookup id

def isStruct (index : TypeIndex) (id : String) : Bool :=
  index.kind? id = some .struct

end TypeIndex

end ArchAtlas
