import ArchAtlas.Facts.Codec

/-!
Reading facts while isolating bad records. `Project.survey` reads a project from a JSON object; a
package, import, type or function that does not fit is skipped and reported by its path, and the rest
of the project is kept. Only a value that is no object is refused.
-/

namespace ArchAtlas.Facts

/-- A record that was left out, by its path in the value. -/
structure Skipped where
  path : String
  reason : String
  deriving DecidableEq, Repr

/-- The facts that could be read, and the records that could not. -/
structure Survey where
  project : Project
  skipped : List Skipped
  deriving DecidableEq, Repr

/-- The only way a survey fails. -/
inductive SurveyError where
  | notAnObject
  deriving DecidableEq, Repr

def SurveyError.message : SurveyError → String
  | .notAnObject => "Malformed raw record: project root must be a JSON object"

/-- A package whose collections are still unread. -/
structure Shell where
  id : String
  name : String
  fullName : String
  sourceFiles : List String
  imports : List Json
  structs : List Json
  interfaces : List Json
  functions : List Json

/-- A value that is kept as it is. -/
def anything : Codec Json Json := ⟨id, .ok⟩

def Shell.codec : Codec Json Shell :=
  .record "PackageShell"
    (.cons (.defaulted "id" .text "") <|
      .cons (.required "name" .text) <|
      .cons (.defaulted "fullName" .text "") <|
      .cons (.defaulted "sourceFiles" Codec.text.list []) <|
      .cons (.defaulted "imports" anything.list []) <|
      .cons (.defaulted "structs" anything.list []) <|
      .cons (.defaulted "interfaces" anything.list []) <|
      .cons (.defaulted "functions" anything.list []) .nil)
    (fun (id, name, fullName, sourceFiles, imports, structs, interfaces, functions, _) =>
      ⟨id, name, fullName, sourceFiles, imports, structs, interfaces, functions⟩)
    (fun p =>
      (p.id, p.name, p.fullName, p.sourceFiles, p.imports, p.structs, p.interfaces, p.functions, ()))

/-- The path of an item in a collection. -/
def itemPath (collection : String) (index : Nat) : String :=
  collection ++ "[" ++ toString index ++ "]"

/-- Reads the items of a collection that fit, and reports the others. -/
def surveyItems {α : Type} (codec : Codec Json α) (collection : String) :
    (index : Nat) → List Json → List α × List Skipped
  | _, [] => ([], [])
  | index, item :: items =>
    let (kept, skipped) := surveyItems codec collection (index + 1) items
    match codec.decode item with
    | .ok a => (a :: kept, skipped)
    | .error fault => (kept, ⟨itemPath collection index, fault.message⟩ :: skipped)

/-- Reads the collections of a package. -/
def Shell.survey (shell : Shell) (path : String) : Package × List Skipped :=
  let (imports, skippedImports) :=
    surveyItems (Import.codec Json) (path ++ ".imports") 0 shell.imports
  let (structs, skippedStructs) :=
    surveyItems (TypeDecl.codec Json) (path ++ ".structs") 0 shell.structs
  let (interfaces, skippedInterfaces) :=
    surveyItems (TypeDecl.codec Json) (path ++ ".interfaces") 0 shell.interfaces
  let (functions, skippedFunctions) :=
    surveyItems (FuncDecl.codec Json) (path ++ ".functions") 0 shell.functions
  (⟨shell.id, shell.name, shell.fullName, shell.sourceFiles, imports, structs, interfaces,
      functions⟩,
    skippedImports ++ skippedStructs ++ skippedInterfaces ++ skippedFunctions)

/-- Reads the packages of a project. -/
def surveyPackages : (index : Nat) → List Json → List Package × List Skipped
  | _, [] => ([], [])
  | index, item :: items =>
    let path := itemPath "packages" index
    let (kept, skipped) := surveyPackages (index + 1) items
    match Shell.codec.decode item with
    | .ok shell =>
      let (package, inside) := shell.survey path
      (package :: kept, inside ++ skipped)
    | .error fault => (kept, ⟨path, fault.message⟩ :: skipped)

/-- The packages of a project, still unread. -/
def packageItems (members : List (String × Json)) : List Json × List Skipped :=
  match members.lookup "packages" with
  | some (.arr items) => (items, [])
  | some _ => ([], [⟨"packages", "expected an array"⟩])
  | none => ([], [])

/-- What a project says about itself, apart from its packages. -/
def surveyHeader (members : List (String × Json)) : Project × List Skipped :=
  let others := members.filter fun m => m.1 ≠ "packages"
  match (Project.codec Json).decode (.obj others) with
  | .ok project => (project, [])
  | .error fault => (.empty, [⟨"project", fault.message⟩])

/-- Reads a project, leaving out the records that do not fit. -/
def Project.survey (value : Json) : Except SurveyError Survey :=
  match value with
  | .obj members =>
    let (items, skippedList) := packageItems members
    let (header, skippedHeader) := surveyHeader members
    let (packages, skipped) := surveyPackages 0 items
    .ok ⟨{ header with packages }, skippedList ++ skippedHeader ++ skipped⟩
  | _ => .error .notAnObject

end ArchAtlas.Facts
