import ArchAtlas.Matching.Basic
import ArchAtlas.Table
import ArchAtlas.TypeIndex

/-!
The capability layer: which struct implements which interface, and which struct holds which type in a
field. A struct is shown only where an edge touches it. A field typed by another struct, and not by an
interface, is reported as a risk.
-/

namespace ArchAtlas

open Codec (text flag count)

inductive CapabilityNodeKind where
  | interface
  | struct
  deriving DecidableEq, Repr

def CapabilityNodeKind.names : List (String × CapabilityNodeKind) :=
  [("interface", .interface), ("struct", .struct)]

def CapabilityNodeKind.codec (ν : Type) [Medium ν] : Codec ν CapabilityNodeKind := .variants names

structure CapabilityNode where
  id : String
  name : String
  kind : CapabilityNodeKind
  package : String
  exported : Bool
  methodCount : Nat
  fieldCount : Nat
  /-- The number of different nodes with an edge to this one. -/
  fanIn : Nat
  /-- The number of different nodes that this one has an edge to. -/
  fanOut : Nat
  deriving DecidableEq, Repr

inductive CapabilityEdgeKind where
  | implements
  | uses
  deriving DecidableEq, Repr

def CapabilityEdgeKind.names : List (String × CapabilityEdgeKind) :=
  [("implements", .implements), ("uses", .uses)]

def CapabilityEdgeKind.codec (ν : Type) [Medium ν] : Codec ν CapabilityEdgeKind := .variants names

/-- Where a use was seen. -/
structure UsageContext where
  fieldType : Bool
  usageLocations : List String
  deriving DecidableEq, Repr

structure CapabilityEdge where
  id : String
  kind : CapabilityEdgeKind
  source : String
  target : String
  confidence : Float
  concreteUsage : Bool
  context : Option UsageContext
  deriving DecidableEq, Repr

/-- A field that depends on a struct. -/
structure UsageRisk where
  owner : String
  fieldType : String
  concreteType : String
  location : String
  deriving DecidableEq, Repr

structure CapabilityGraph where
  nodes : List CapabilityNode
  edges : List CapabilityEdge
  risks : List UsageRisk
  deriving DecidableEq, Repr

section Codecs

variable (ν : Type) [Medium ν]

def CapabilityNode.codec : Codec ν CapabilityNode :=
  .record "CapabilityNode"
    (.cons (.required "id" text) <|
      .cons (.required "name" text) <|
      .cons (.required "type" (CapabilityNodeKind.codec ν)) <|
      .cons (.required "package" text) <|
      .cons (.required "exported" flag) <|
      .cons (.required "methodCount" count) <|
      .cons (.required "fieldCount" count) <|
      .cons (.required "fanIn" count) <|
      .cons (.required "fanOut" count) .nil)
    (fun (id, name, kind, package, exported, methodCount, fieldCount, fanIn, fanOut, _) =>
      ⟨id, name, kind, package, exported, methodCount, fieldCount, fanIn, fanOut⟩)
    (fun n => (n.id, n.name, n.kind, n.package, n.exported, n.methodCount, n.fieldCount, n.fanIn,
      n.fanOut, ()))

def UsageContext.codec : Codec ν UsageContext :=
  .record "UsageContext"
    (.cons (.required "fieldType" flag) <|
      .cons (.required "usageLocations" text.list) .nil)
    (fun (fieldType, usageLocations, _) => ⟨fieldType, usageLocations⟩)
    (fun c => (c.fieldType, c.usageLocations, ()))

def CapabilityEdge.codec : Codec ν CapabilityEdge :=
  .record "CapabilityEdge"
    (.cons (.required "id" text) <|
      .cons (.required "type" (CapabilityEdgeKind.codec ν)) <|
      .cons (.required "source" text) <|
      .cons (.required "target" text) <|
      .cons (.required "confidence" .real) <|
      .cons (.defaulted "concreteUsage" flag false) <|
      .cons (.optional "context" (UsageContext.codec ν)) .nil)
    (fun (id, kind, source, target, confidence, concreteUsage, context, _) =>
      ⟨id, kind, source, target, confidence, concreteUsage, context⟩)
    (fun e => (e.id, e.kind, e.source, e.target, e.confidence, e.concreteUsage, e.context, ()))

def UsageRisk.codec : Codec ν UsageRisk :=
  .record "ConcreteUsageRisk"
    (.cons (.required "owner" text) <|
      .cons (.required "fieldType" text) <|
      .cons (.required "concreteType" text) <|
      .cons (.required "location" text) .nil)
    (fun (owner, fieldType, concreteType, location, _) =>
      ⟨owner, fieldType, concreteType, location⟩)
    (fun r => (r.owner, r.fieldType, r.concreteType, r.location, ()))

def CapabilityGraph.codec : Codec ν CapabilityGraph :=
  .record "CapabilityGraph"
    (.cons (.required "nodes" (CapabilityNode.codec ν).list) <|
      .cons (.required "edges" (CapabilityEdge.codec ν).list) <|
      .cons (.required "concreteUsageRisks" (UsageRisk.codec ν).list) .nil)
    (fun (nodes, edges, risks, _) => ⟨nodes, edges, risks⟩)
    (fun g => (g.nodes, g.edges, g.risks, ()))

end Codecs

namespace CapabilityGraph

/-- What no two edges share. -/
def key (e : CapabilityEdge) : CapabilityEdgeKind × String × String :=
  (e.kind, e.source, e.target)

def implementsEdge (i : Matching.Implementation) : CapabilityEdge where
  id := "impl-" ++ i.structId ++ "-" ++ i.interfaceId
  kind := .implements
  source := i.structId
  target := i.interfaceId
  confidence := i.confidence
  concreteUsage := false
  context := none

/-- Where a field stands: its own location, or that of the struct. -/
def fieldLocation (f : Facts.FieldDecl) (owner : Facts.TypeDecl) : String :=
  let span := f.location.getD owner.location
  span.file ++ ":" ++ toString span.startLine.toNat

/-- The edges and the risks made so far, with the keys of the edges. -/
structure Draft where
  edges : List CapabilityEdge
  seen : List (CapabilityEdgeKind × String × String)
  risks : List UsageRisk
  deriving DecidableEq, Repr

namespace Draft

def empty : Draft := ⟨[], [], []⟩

/-- Adds an edge whose key is new. -/
def push (d : Draft) (e : CapabilityEdge) : Draft :=
  if d.seen.contains (key e) then d else { d with edges := d.edges ++ [e], seen := key e :: d.seen }

/-- Adds the use that a field of a struct makes, if its type is declared in the project. The use of a
struct is a risk where it makes an edge. -/
def use (index : TypeIndex) (p : Facts.Package) (s : Facts.TypeDecl) (d : Draft)
    (f : Facts.FieldDecl) : Draft :=
  match index.resolve? p.path f.typeName with
  | some target =>
    let owner := p.typeId s
    let location := fieldLocation f s
    let concrete := index.isStruct target
    let next := d.push
      { id := "uses-" ++ owner ++ "-" ++ f.typeName
        kind := .uses
        source := owner
        target
        confidence := Confidence.fieldUsage
        concreteUsage := concrete
        context := some ⟨true, [location]⟩ }
    if concrete && d.edges.length < next.edges.length then
      { next with risks := next.risks ++ [⟨owner, f.typeName, target, location⟩] }
    else next
  | none => d

end Draft

/-- The edges and risks of a project: implementations, and then the uses of all fields. -/
def draft (p : Facts.Project) (implementations : List Matching.Implementation) : Draft :=
  let index := TypeIndex.build p
  let implemented := implementations.foldl (fun d i => d.push (implementsEdge i)) Draft.empty
  p.packages.foldl (fun d pkg =>
    pkg.structs.foldl (fun d s => s.fields.foldl (Draft.use index pkg s) d) d) implemented

/-- The declared type as a node, before its edges are counted. -/
def candidate (d : Declaration) : CapabilityNode where
  id := d.id
  name := d.type.name
  kind := match d.kind with
    | .interface => .interface
    | .struct => .struct
  package := d.package.path
  exported := d.type.exported
  methodCount := d.type.methods.length
  fieldCount := d.type.fields.length
  fanIn := 0
  fanOut := 0

/-- The different nodes that edges come from and lead to, by the node at the other end. -/
structure Fans where
  incoming : Table String (List String)
  outgoing : Table String (List String)
  deriving DecidableEq, Repr

namespace Fans

def empty : Fans := ⟨.empty, .empty⟩

def add (f : Fans) (e : CapabilityEdge) : Fans where
  incoming := f.incoming.addTo e.target e.source
  outgoing := f.outgoing.addTo e.source e.target

end Fans

/-- All interfaces, and the structs that an edge touches. -/
def nodesFor (p : Facts.Project) (edges : List CapabilityEdge) : List CapabilityNode :=
  let fans := edges.foldl Fans.add .empty
  let shown := ((Declaration.ofProject p).map candidate).filter fun n =>
    n.kind = .interface || fans.incoming.contains n.id || fans.outgoing.contains n.id
  shown.map fun n =>
    { n with
      fanIn := (fans.incoming.get? n.id).elim 0 List.length
      fanOut := (fans.outgoing.get? n.id).elim 0 List.length }

/-- The capability layer of a project with the implementations found in it. -/
def build (p : Facts.Project) (implementations : List Matching.Implementation) : CapabilityGraph :=
  let made := draft p implementations
  ⟨nodesFor p made.edges, made.edges, made.risks⟩

def node? (g : CapabilityGraph) (id : String) : Option CapabilityNode :=
  g.nodes.find? fun n => n.id = id

def edgesOf (g : CapabilityGraph) (kind : CapabilityEdgeKind) : List CapabilityEdge :=
  g.edges.filter fun e => e.kind = kind

end CapabilityGraph

end ArchAtlas
