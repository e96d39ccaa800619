import ArchAtlas.Language

/-!
Facts about a code base, as extractors deliver them: packages with their imports, declared types and
functions, and what is called, spawned and sent in the bodies of functions.
-/

namespace ArchAtlas

/-- Lines of a file. -/
structure Span where
  file : String
  startLine : UInt32
  endLine : UInt32
  deriving DecidableEq, Repr, Inhabited

/-- A line of a file. -/
structure Place where
  file : String
  line : UInt32
  deriving DecidableEq, Repr, Inhabited

/-- The first line of a span. -/
def Span.place (s : Span) : Place := ⟨s.file, s.startLine⟩

namespace Facts

structure Import where
  path : String
  localName : Option String
  location : Option Span
  deriving DecidableEq, Repr

/-- A field of a struct or a property of a class. -/
structure FieldDecl where
  name : String
  typeName : String
  exported : Bool
  location : Option Span
  deriving DecidableEq, Repr

structure Parameter where
  name : String
  typeName : String
  deriving DecidableEq, Repr

/-- A call in a function body. The arguments are source text. -/
structure Call where
  functionName : String
  packageName : Option String
  receiverType : Option String
  args : List String
  location : Span
  deriving DecidableEq, Repr

/-- The callee with its package, where one is named. -/
def Call.qualifiedName (c : Call) : String :=
  match c.packageName with
  | some package => if package = "" then c.functionName else package ++ "." ++ c.functionName
  | none => c.functionName

/-- A task started in a function body. -/
structure Spawn where
  call : Call
  location : Span
  deriving DecidableEq, Repr

inductive ChannelOperation where
  | send
  | receive
  | close
  | make
  deriving DecidableEq, Repr

structure ChannelUse where
  channelName : String
  operation : ChannelOperation
  location : Span
  deriving DecidableEq, Repr

structure Body where
  calls : List Call
  spawns : List Spawn
  channelOps : List ChannelUse
  deriving DecidableEq, Repr

/-- A function or a method. -/
structure FuncDecl where
  name : String
  receiverType : Option String
  parameters : List Parameter
  returnTypes : List String
  exported : Bool
  location : Span
  body : Option Body
  deriving DecidableEq, Repr

/-- A struct, a class or an interface. -/
structure TypeDecl where
  name : String
  packageName : String
  fields : List FieldDecl
  methods : List FuncDecl
  exported : Bool
  location : Span
  deriving DecidableEq, Repr

def TypeDecl.methodNames (t : TypeDecl) : List String :=
  t.methods.map FuncDecl.name

structure Package where
  id : String
  name : String
  /-- The path of the package within its module. -/
  fullName : String
  sourceFiles : List String
  imports : List Import
  structs : List TypeDecl
  interfaces : List TypeDecl
  functions : List FuncDecl
  deriving DecidableEq, Repr

/-- The path that namespaces the package's types: its full name, or its name where that is empty. -/
def Package.path (p : Package) : String :=
  if p.fullName = "" then p.name else p.fullName

/-- The identity of a type declared in the package. -/
def Package.typeId (p : Package) (t : TypeDecl) : String :=
  p.path ++ "." ++ t.name

/-- Every function with a body, then every method of a struct with a body; methods with the type that
owns them. -/
def Package.bodies (p : Package) : List (Option TypeDecl × FuncDecl × Body) :=
  let functions := p.functions.filterMap fun f => f.body.map fun b => (none, f, b)
  let methods := p.structs.flatMap fun s =>
    s.methods.filterMap fun m => m.body.map fun b => (some s, m, b)
  functions ++ methods

/-- What the bodies of a package hold, function by function and then method by method. -/
theorem Package.flatMap_bodies {β : Type} (p : Package)
    (part : Option TypeDecl × FuncDecl × Body → List β) :
    p.bodies.flatMap part =
      (p.functions.flatMap fun f => f.body.elim [] fun b => part (none, f, b)) ++
      p.structs.flatMap fun s => s.methods.flatMap fun m =>
        m.body.elim [] fun b => part (some s, m, b) := by
  have within (owner : Option TypeDecl) (fs : List FuncDecl) :
      (fs.filterMap fun f => f.body.map fun b => (owner, f, b)).flatMap part =
        fs.flatMap fun f => f.body.elim [] fun b => part (owner, f, b) := by
    induction fs with
    | nil => rfl
    | cons f fs ih => cases body : f.body <;> simp [body, ih]
  simp only [bodies, List.flatMap_append, List.flatMap_assoc, within]

/-- A module that the project requires. -/
structure Requirement where
  path : String
  version : String
  indirect : Bool
  deriving DecidableEq, Repr

structure Project where
  language : Language
  moduleName : String
  moduleRoot : String
  requires : List Requirement
  packages : List Package
  deriving DecidableEq, Repr

/-- The project without any facts. -/
def Project.empty : Project := ⟨.go, "", "", [], []⟩

end Facts

end ArchAtlas
