import ArchAtlas.Facts.Codec

/-!
The spawn layer: which functions start tasks, and the channels that are made on the way.
-/

namespace ArchAtlas

open Codec (text)

inductive TaskKind where
  | main
  | spawned
  deriving DecidableEq, Repr

def TaskKind.names : List (String × TaskKind) := [("main", .main), ("spawned", .spawned)]

def TaskKind.codec (ν : Type) [Medium ν] : Codec ν TaskKind := .variants names

/-- What a task runs. -/
inductive SpawnType where
  | namedFunc
  | anonymousFunc
  deriving DecidableEq, Repr

def SpawnType.names : List (String × SpawnType) :=
  [("named_func", .namedFunc), ("anonymous_func", .anonymousFunc)]

def SpawnType.codec (ν : Type) [Medium ν] : Codec ν SpawnType := .variants names

structure TaskNode where
  id : String
  name : String
  kind : TaskKind
  spawnType : Option SpawnType
  package : String
  location : Place
  deriving DecidableEq, Repr

inductive SpawnEdgeKind where
  | goFunc
  | goStmt
  deriving DecidableEq, Repr

def SpawnEdgeKind.names : List (String × SpawnEdgeKind) :=
  [("go-func", .goFunc), ("go-stmt", .goStmt)]

def SpawnEdgeKind.codec (ν : Type) [Medium ν] : Codec ν SpawnEdgeKind := .variants names

/-- A task started by a function. -/
structure SpawnEdge where
  source : String
  target : String
  kind : SpawnEdgeKind
  deriving DecidableEq, Repr

inductive ChannelDirection where
  | send
  | receive
  | bidirectional
  deriving DecidableEq, Repr

def ChannelDirection.names : List (String × ChannelDirection) :=
  [("send", .send), ("receive", .receive), ("bidirectional", .bidirectional)]

def ChannelDirection.codec (ν : Type) [Medium ν] : Codec ν ChannelDirection := .variants names

structure ChannelInfo where
  id : String
  name : String
  channelType : String
  direction : ChannelDirection
  location : Place
  deriving DecidableEq, Repr

structure SpawnTopology where
  nodes : List TaskNode
  edges : List SpawnEdge
  channels : List ChannelInfo
  deriving DecidableEq, Repr

section Codecs

variable (ν : Type) [Medium ν]

def TaskNode.codec : Codec ν TaskNode :=
  .record "TaskNode"
    (.cons (.required "id" text) <|
      .cons (.required "name" text) <|
      .cons (.required "type" (TaskKind.codec ν)) <|
      .cons (.optional "spawnType" (SpawnType.codec ν)) <|
      .cons (.required "package" text) <|
      .cons (.required "location" (Place.codec ν)) .nil)
    (fun (id, name, kind, spawnType, package, location, _) =>
      ⟨id, name, kind, spawnType, package, location⟩)
    (fun n => (n.id, n.name, n.kind, n.spawnType, n.package, n.location, ()))

def SpawnEdge.codec : Codec ν SpawnEdge :=
  .record "SpawnEdge"
    (.cons (.required "from" text) <|
      .cons (.required "to" text) <|
      .cons (.required "spawnType" (SpawnEdgeKind.codec ν)) .nil)
    (fun (source, target, kind, _) => ⟨source, target, kind⟩)
    (fun e => (e.source, e.target, e.kind, ()))

def ChannelInfo.codec : Codec ν ChannelInfo :=
  .record "ChannelInfo"
    (.cons (.required "id" text) <|
      .cons (.required "name" text) <|
      .cons (.required "type" text) <|
      .cons (.required "direction" (ChannelDirection.codec ν)) <|
      .cons (.required "location" (Place.codec ν)) .nil)
    (fun (id, name, channelType, direction, location, _) =>
      ⟨id, name, channelType, direction, location⟩)
    (fun c => (c.id, c.name, c.channelType, c.direction, c.location, ()))

def SpawnTopology.codec : Codec ν SpawnTopology :=
  .record "SpawnTopology"
    (.cons (.required "nodes" (TaskNode.codec ν).list) <|
      .cons (.required "edges" (SpawnEdge.codec ν).list) <|
      .cons (.required "channels" (ChannelInfo.codec ν).list) .nil)
    (fun (nodes, edges, channels, _) => ⟨nodes, edges, channels⟩)
    (fun t => (t.nodes, t.edges, t.channels, ()))

end Codecs

namespace SpawnTopology

def empty : SpawnTopology := ⟨[], [], []⟩

/-- Everything in the first topology, then everything in the second. -/
def append (s t : SpawnTopology) : SpawnTopology :=
  ⟨s.nodes ++ t.nodes, s.edges ++ t.edges, s.channels ++ t.channels⟩

instance : Append SpawnTopology := ⟨append⟩

/-- The id of a program's first task. -/
def mainId : String := "main"

/-- The name that extractors give a function without one. -/
def anonymousName : String := "<anonymous>"

def isAnonymous (s : Facts.Spawn) : Bool :=
  s.call.functionName = anonymousName

/-- The id of a task, by the function that starts it and the line. -/
def taskId (p : Facts.Package) (parent : String) (s : Facts.Spawn) : String :=
  p.path ++ "." ++ parent ++ ".spawn-" ++ toString s.location.startLine.toNat

def task (p : Facts.Package) (parent : String) (s : Facts.Spawn) : TaskNode where
  id := taskId p parent s
  name := s.call.functionName
  kind := .spawned
  spawnType := some (if isAnonymous s then .anonymousFunc else .namedFunc)
  package := p.path
  location := s.location.place

def spawnEdge (p : Facts.Package) (parent source : String) (s : Facts.Spawn) : SpawnEdge :=
  ⟨source, taskId p parent s, if isAnonymous s then .goFunc else .goStmt⟩

def channel (p : Facts.Package) (c : Facts.ChannelUse) : ChannelInfo where
  id := "chan-" ++ p.path ++ "-" ++ toString c.location.startLine.toNat
  name := c.channelName
  channelType := "chan"
  direction := .bidirectional
  location := c.location.place

/-- What a body starts and makes: `parent` names the function in ids, `source` is where edges begin. -/
def ofBody (p : Facts.Package) (parent source : String) (b : Facts.Body) : SpawnTopology where
  nodes := b.spawns.map (task p parent)
  edges := b.spawns.map (spawnEdge p parent source)
  channels := (b.channelOps.filter fun c => c.operation = .make).map (channel p)

/-- Whether a function is where the program begins. -/
def isMain (p : Facts.Package) (f : Facts.FuncDecl) : Bool :=
  p.name = "main" && f.name = "main"

def mainTask (p : Facts.Package) (f : Facts.FuncDecl) : TaskNode :=
  ⟨mainId, "main.main", .main, none, p.path, f.location.place⟩

def ofFunction (p : Facts.Package) (f : Facts.FuncDecl) : SpawnTopology :=
  let begins : SpawnTopology := ⟨if isMain p f then [mainTask p f] else [], [], []⟩
  let source := if isMain p f then mainId else p.path ++ "." ++ f.name
  begins ++ f.body.elim empty (ofBody p f.name source)

def ofMethod (p : Facts.Package) (s : Facts.TypeDecl) (m : Facts.FuncDecl) : SpawnTopology :=
  let parent := s.name ++ "." ++ m.name
  m.body.elim empty (ofBody p parent (p.path ++ "." ++ parent))

/-- The functions of a package, then the methods of its structs. -/
def ofPackage (p : Facts.Package) : SpawnTopology :=
  let functions := p.functions.map (ofFunction p)
  let methods := p.structs.flatMap fun s => s.methods.map (ofMethod p s)
  (functions ++ methods).foldl append empty

/-- The spawn layer of a project. -/
def build (p : Facts.Project) : SpawnTopology :=
  (p.packages.map ofPackage).foldl append empty

/-- The tasks other than the first. -/
def spawned (t : SpawnTopology) : List TaskNode :=
  t.nodes.filter fun n => n.kind = .spawned

end SpawnTopology

end ArchAtlas
