import ArchAtlas.Distinct
import ArchAtlas.Document.Basic
import ArchAtlas.TypeIndex

/-!
The document of a project: an entity for each declared type, a relation for each implementation, and a
relation for each field whose type is declared in the project.
-/

namespace ArchAtlas.Document

def ofField (f : Facts.FieldDecl) : Member where
  name := f.name
  kind := .field
  visibility := .ofExported f.exported
  fieldType := some f.typeName

/-- The text of the results of a function: several stand in parentheses. -/
def returnType? : List String → Option String
  | [] => none
  | [single] => some single
  | several => some ("(" ++ ", ".intercalate several ++ ")")

def ofMethod (isAbstract : Bool) (f : Facts.FuncDecl) : Member where
  name := f.name
  kind := .method
  visibility := .ofExported f.exported
  returnType := returnType? f.returnTypes
  parameters := some (f.parameters.map fun p => ⟨p.name, p.typeName⟩)
  isAbstract

/-- A declared type as an entity; the methods of an interface are abstract. -/
def ofType (p : Facts.Package) (kind : EntityKind) (t : Facts.TypeDecl) : Entity where
  id := p.typeId t
  name := t.name
  kind
  visibility := .ofExported t.exported
  members := t.fields.map ofField ++ t.methods.map (ofMethod (kind = .interface))
  location := t.location

/-- The structs of a package, then its interfaces. -/
def ofPackage (p : Facts.Package) : List Entity :=
  p.structs.map (ofType p .struct) ++ p.interfaces.map (ofType p .interface)

def ofImplementation (i : Matching.Implementation) : Relation :=
  (Relation.explicit (i.structId ++ "-implementation-" ++ i.interfaceId) .implementation i.structId
    i.interfaceId).withInference i.strategy.source i.confidence

/-- The relation to the type of a field, if that is another type declared in the project. -/
def composition? (index : TypeIndex) (p : Facts.Package) (s : Facts.TypeDecl)
    (f : Facts.FieldDecl) : Option Relation :=
  let owner := p.typeId s
  match index.resolve? p.path f.typeName with
  | some target =>
    if target = owner then none
    else some (.explicit (owner ++ "-composition-" ++ target) .composition owner target)
  | none => none

/-- The relations that the fields of all structs make, in order. -/
def compositions (p : Facts.Project) : List Relation :=
  let index := TypeIndex.build p
  p.packages.flatMap fun pkg =>
    pkg.structs.flatMap fun s => s.fields.filterMap (composition? index pkg s)

/-- The document of a project with the implementations found in it. -/
def ofProject (timestamp : String) (p : Facts.Project)
    (implementations : List Matching.Implementation) : Except DuplicateId Document := do
  let document : Document :=
    { version := currentVersion
      language := p.language
      timestamp
      sourceFiles := (p.packages.flatMap Facts.Package.sourceFiles).eraseDups
      entities := p.packages.flatMap ofPackage
      relations := firstBy Relation.key (implementations.map ofImplementation ++ compositions p)
      metrics := none
      extensions := none }
  document.checkUnique
  return document

end ArchAtlas.Document
