import ArchAtlas.Config.Basic
import ArchAtlas.Graph.Basic

/-!
The package layer: a node for each package of a project, an edge where one imports another, weighted
by the number of import statements, and the cycles among them.
-/

namespace ArchAtlas

open Codec (text count)

inductive PackageKind where
  | inside
  | vendor
  | cmd
  | tests
  | examples
  | testutil
  deriving DecidableEq, Repr

def PackageKind.names : List (String × PackageKind) :=
  [("internal", .inside), ("vendor", .vendor), ("cmd", .cmd), ("tests", .tests),
    ("examples", .examples), ("testutil", .testutil)]

def PackageKind.codec (ν : Type) [Medium ν] : Codec ν PackageKind := .variants names

/-- How many declarations a package has. -/
structure PackageStats where
  structs : Nat
  interfaces : Nat
  functions : Nat
  deriving DecidableEq, Repr

structure PackageNode where
  id : String
  name : String
  kind : PackageKind
  fileCount : Nat
  stats : PackageStats
  deriving DecidableEq, Repr

/-- An import of one package by another. -/
structure Dependency where
  source : String
  target : String
  /-- The number of different import statements. -/
  strength : UInt32
  deriving DecidableEq, Repr

inductive Severity where
  | warning
  | error
  deriving DecidableEq, Repr

def Severity.names : List (String × Severity) := [("warning", .warning), ("error", .error)]

def Severity.codec (ν : Type) [Medium ν] : Codec ν Severity := .variants names

structure PackageCycle where
  packages : List String
  severity : Severity
  deriving DecidableEq, Repr

structure PackageGraph where
  nodes : List PackageNode
  edges : List Dependency
  cycles : List PackageCycle
  deriving DecidableEq, Repr

section Codecs

variable (ν : Type) [Medium ν]

def PackageStats.codec : Codec ν PackageStats :=
  .record "PackageStats"
    (.cons (.required "structs" count) <|
      .cons (.required "interfaces" count) <|
      .cons (.required "functions" count) .nil)
    (fun (structs, interfaces, functions, _) => ⟨structs, interfaces, functions⟩)
    (fun s => (s.structs, s.interfaces, s.functions, ()))

def PackageNode.codec : Codec ν PackageNode :=
  .record "PackageNode"
    (.cons (.required "id" text) <|
      .cons (.required "name" text) <|
      .cons (.required "type" (PackageKind.codec ν)) <|
      .cons (.required "fileCount" count) <|
      .cons (.required "stats" (PackageStats.codec ν)) .nil)
    (fun (id, name, kind, fileCount, stats, _) => ⟨id, name, kind, fileCount, stats⟩)
    (fun n => (n.id, n.name, n.kind, n.fileCount, n.stats, ()))

def Dependency.codec : Codec ν Dependency :=
  .record "PackageDependency"
    (.cons (.required "from" text) <|
      .cons (.required "to" text) <|
      .cons (.required "strength" .u32) .nil)
    (fun (source, target, strength, _) => ⟨source, target, strength⟩)
    (fun d => (d.source, d.target, d.strength, ()))

def PackageCycle.codec : Codec ν PackageCycle :=
  .record "PackageCycle"
    (.cons (.required "packages" text.list) <|
      .cons (.required "severity" (Severity.codec ν)) .nil)
    (fun (packages, severity, _) => ⟨packages, severity⟩)
    (fun c => (c.packages, c.severity, ()))

def PackageGraph.codec : Codec ν PackageGraph :=
  .record "PackageGraph"
    (.cons (.required "nodes" (PackageNode.codec ν).list) <|
      .cons (.required "edges" (Dependency.codec ν).list) <|
      .cons (.required "cycles" (PackageCycle.codec ν).list) .nil)
    (fun (nodes, edges, cycles, _) => ⟨nodes, edges, cycles⟩)
    (fun g => (g.nodes, g.edges, g.cycles, ()))

end Codecs

/-- The identity of a package within its module. -/
def packageId (moduleName : String) (p : Facts.Package) : String :=
  if p.fullName = "" then p.name
  else if moduleName = "" then p.fullName
  else moduleName ++ "/" ++ p.fullName

/-- The directories on a path. -/
def pathSegments (path : String) : List String :=
  (path.toList.splitOn '/').map String.ofList

/-- Directories that hold shared helpers for tests. -/
def testutilSegments : List String :=
  ["testutil", "testutils", "testhelper", "testhelpers", "testing"]

/-- The kind of a package, by its path and then by its name. -/
def PackageKind.ofPackage (p : Facts.Package) : PackageKind :=
  let path := p.path
  if Text.startsWith path "tests/" || path = "tests" then .tests
  else if Text.startsWith path "examples/" || path = "examples" then .examples
  else if (pathSegments path).any testutilSegments.contains then .testutil
  else if p.name = "main" then .cmd
  else if (pathSegments path).contains "vendor" then .vendor
  else .inside

/-- How severe a cycle of a given length is. -/
def Config.Cycles.severity (c : Config.Cycles) (length : Nat) : Severity :=
  if length ≤ c.warningMaxLength.toNat then .warning else .error

namespace PackageGraph

/-- The packages that own a node, with its id: of several packages with one id the first. -/
def owners (p : Facts.Project) : List (String × Facts.Package) :=
  p.packages.foldl (fun acc pkg =>
    let id := packageId p.moduleName pkg
    if acc.any fun o => o.1 = id then acc else acc ++ [(id, pkg)]) []

/-- The places of the nodes that import paths lead to. A path leads to the node with that id, or else to
the first whose package has that path. -/
def known (owners : List (String × Facts.Package)) : Table String Nat :=
  let byId := owners.zipIdx.foldl (fun t o => t.insert o.1.1 o.2) .empty
  owners.zipIdx.foldl (fun t o => t.insertNew o.1.2.path o.2) byId

def idAt (owners : List (String × Facts.Package)) (i : Nat) : String :=
  (owners[i]?).elim "" Prod.fst

/-- What tells one import statement from another. -/
structure Statement where
  path : String
  localName : Option String
  place : Option Place
  deriving DecidableEq, Repr

def Statement.ofImport (i : Facts.Import) : Statement :=
  ⟨i.path, i.localName, i.location.map Span.place⟩

/-- The state of the pass over the imports of all nodes. -/
structure Scan where
  /-- The edges, by the places of the nodes that they join. -/
  edges : Roster (Nat × Nat) Dependency
  /-- The statements met, each with the places that it joins. -/
  statements : List ((Nat × Nat) × Statement)
  deriving DecidableEq, Repr

namespace Scan

def initial : Scan := ⟨.empty, []⟩

/-- Meets a statement: one that is new makes its edge, or makes it stronger. -/
def meet (owners : List (String × Facts.Package)) (s : Scan) (found : (Nat × Nat) × Statement) :
    Scan :=
  if found ∈ s.statements then s
  else
    { edges := s.edges.put found.1 ⟨idAt owners found.1.1, idAt owners found.1.2, 1⟩
        fun e => { e with strength := e.strength + 1 }
      statements := found :: s.statements }

/-- Reads an import of the package at a place. What belongs to the standard library leads nowhere. -/
def read (language : Language) (owners : List (String × Facts.Package)) (known : Table String Nat)
    (source : Nat) (s : Scan) (i : Facts.Import) : Scan :=
  if language.isStandard i.path then s
  else
    match known.get? i.path with
    | some target =>
      if source = target then s else s.meet owners ((source, target), .ofImport i)
    | none => s

end Scan

/-- The edges of the nodes, in the order in which imports give rise to them. -/
def importEdges (language : Language) (owners : List (String × Facts.Package)) : List Dependency :=
  let known := known owners
  let scan := owners.zipIdx.foldl
    (fun s o => o.1.2.imports.foldl (Scan.read language owners known o.2) s) .initial
  scan.edges.items

def node (o : String × Facts.Package) : PackageNode where
  id := o.1
  name := o.2.path
  kind := .ofPackage o.2
  fileCount := o.2.sourceFiles.length
  stats := ⟨o.2.structs.length, o.2.interfaces.length, o.2.functions.length⟩

/-- The graph of the nodes' ids and the edges between them. -/
def skeleton (nodes : List PackageNode) (edges : List Dependency) : Graph :=
  edges.foldl (fun g e => (g.addEdge e.source e.target).1) (Graph.ofNodes (nodes.map PackageNode.id))

/-- The cycles along a depth-first search, with their severity. -/
def findCycles (config : Config.Cycles) (nodes : List PackageNode) (edges : List Dependency) :
    List PackageCycle :=
  (skeleton nodes edges).namedCycles.map fun packages =>
    ⟨packages, config.severity packages.length⟩

/-- The package layer of a project. -/
def build (config : Config.Cycles) (p : Facts.Project) : PackageGraph :=
  let owners := owners p
  let nodes := owners.map node
  let edges := importEdges p.language owners
  ⟨nodes, edges, findCycles config nodes edges⟩

def node? (g : PackageGraph) (id : String) : Option PackageNode :=
  g.nodes.find? fun n => n.id = id

def edge? (g : PackageGraph) (source target : String) : Option Dependency :=
  g.edges.find? fun e => e.source = source && e.target = target

end PackageGraph

end ArchAtlas
