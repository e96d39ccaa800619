import ArchAtlas.Facts.Codec

/-!
The flow layer: entry points, where requests come into a program, and call chains, the calls that the
handler of an entry point makes directly.
-/

namespace ArchAtlas

open Codec (text)

inductive HttpMethod where
  | get
  | post
  | put
  | delete
  | patch
  | any
  deriving DecidableEq, Repr

namespace HttpMethod

def names : List (String × HttpMethod) :=
  [("GET", get), ("POST", post), ("PUT", put), ("DELETE", delete), ("PATCH", patch), ("ANY", any)]

def codec (ν : Type) [Medium ν] : Codec ν HttpMethod := .variants names

def lower : HttpMethod → String
  | get => "get"
  | post => "post"
  | put => "put"
  | delete => "delete"
  | patch => "patch"
  | any => "any"

end HttpMethod

/-- Where requests come in. -/
structure EntryPoint where
  id : String
  kind : String
  protocol : String
  method : Option HttpMethod
  framework : String
  path : String
  /-- The function that is called; empty when it has no name. -/
  handler : String
  middleware : List String
  package : Option String
  location : Place
  deriving DecidableEq, Repr

/-- The kind of an entry point: for HTTP its method, otherwise the protocol. -/
def EntryPoint.kindOf (protocol : String) (method : Option HttpMethod) : String :=
  if protocol = "http" then
    match method with
    | some m => "http-" ++ m.lower
    | none => "http-handler"
  else protocol

def EntryPoint.isAnonymous (e : EntryPoint) : Bool := e.handler = ""

inductive CallEdgeKind where
  | direct
  | interface
  | indirect
  deriving DecidableEq, Repr

def CallEdgeKind.names : List (String × CallEdgeKind) :=
  [("direct", .direct), ("interface", .interface), ("indirect", .indirect)]

def CallEdgeKind.codec (ν : Type) [Medium ν] : Codec ν CallEdgeKind := .variants names

structure CallEdge where
  source : String
  target : String
  kind : CallEdgeKind
  confidence : Float
  deriving DecidableEq, Repr

/-- The direct calls of an entry point's handler. -/
structure CallChain where
  id : String
  entryPoint : String
  calls : List CallEdge
  deriving DecidableEq, Repr

structure FlowGraph where
  entryPoints : List EntryPoint
  callChains : List CallChain
  deriving DecidableEq, Repr

/-- The first chain of an entry point. -/
def FlowGraph.chainFor? (g : FlowGraph) (entryId : String) : Option CallChain :=
  g.callChains.find? fun c => c.entryPoint = entryId

/-- The frameworks of a project, in the order in which they were found. -/
structure Frameworks where
  keys : List String
  deriving DecidableEq, Repr

namespace Frameworks

def empty : Frameworks := ⟨[]⟩

def contains (f : Frameworks) (key : String) : Bool := f.keys.contains key

/-- Adds a framework unless it is there; also whether it did. -/
def add (f : Frameworks) (key : String) : Frameworks × Bool :=
  if f.contains key then (f, false) else (⟨f.keys ++ [key]⟩, true)

def insert (f : Frameworks) (key : String) : Frameworks := (f.add key).1

def insertAll (f : Frameworks) (keys : List String) : Frameworks := keys.foldl insert f

def ofList (keys : List String) : Frameworks := empty.insertAll keys

def codec (ν : Type) [Medium ν] : Codec ν Frameworks where
  encode f := (Codec.list (ν := ν) text).encode f.keys
  decode v := ((Codec.list text).decode v).map Frameworks.mk

end Frameworks

section Codecs

variable (ν : Type) [Medium ν]

def EntryPoint.codec : Codec ν EntryPoint :=
  .record "EntryPoint"
    (.cons (.required "id" text) <|
      .cons (.required "type" text) <|
      .cons (.required "protocol" text) <|
      .cons (.optional "method" (HttpMethod.codec ν)) <|
      .cons (.required "framework" text) <|
      .cons (.required "path" text) <|
      .cons (.required "handler" text) <|
      .cons (.defaulted "middleware" text.list []) <|
      .cons (.optional "package" text) <|
      .cons (.required "location" (Place.codec ν)) .nil)
    (fun (id, kind, protocol, method, framework, path, handler, middleware, package, location, _) =>
      ⟨id, kind, protocol, method, framework, path, handler, middleware, package, location⟩)
    (fun e => (e.id, e.kind, e.protocol, e.method, e.framework, e.path, e.handler, e.middleware,
      e.package, e.location, ()))

def CallEdge.codec : Codec ν CallEdge :=
  .record "CallEdge"
    (.cons (.required "from" text) <|
      .cons (.required "to" text) <|
      .cons (.required "type" (CallEdgeKind.codec ν)) <|
      .cons (.required "confidence" .real) .nil)
    (fun (source, target, kind, confidence, _) => ⟨source, target, kind, confidence⟩)
    (fun e => (e.source, e.target, e.kind, e.confidence, ()))

def CallChain.codec : Codec ν CallChain :=
  .record "CallChain"
    (.cons (.required "id" text) <|
      .cons (.required "entryPoint" text) <|
      .cons (.required "calls" (CallEdge.codec ν).list) .nil)
    (fun (id, entryPoint, calls, _) => ⟨id, entryPoint, calls⟩)
    (fun c => (c.id, c.entryPoint, c.calls, ()))

def FlowGraph.codec : Codec ν FlowGraph :=
  .record "FlowGraph"
    (.cons (.required "entryPoints" (EntryPoint.codec ν).list) <|
      .cons (.required "callChains" (CallChain.codec ν).list) .nil)
    (fun (entryPoints, callChains, _) => ⟨entryPoints, callChains⟩)
    (fun g => (g.entryPoints, g.callChains, ()))

end Codecs

end ArchAtlas
