import ArchAtlas.Confidence
import ArchAtlas.Facts.Codec

/-!
Structural matching: which struct implements which interface. By method names alone, a struct
implements an interface that has methods when it has a method of each of their names.
-/

namespace ArchAtlas

/-- Where a relation comes from. -/
inductive InferenceSource where
  | explicit
  | inferred
  | oracle
  deriving DecidableEq, Repr, Inhabited

def InferenceSource.names : List (String × InferenceSource) :=
  [("explicit", .explicit), ("inferred", .inferred), ("oracle", .oracle)]

def InferenceSource.codec (ν : Type) [Medium ν] : Codec ν InferenceSource := .variants names

namespace Matching

/-- A declared type with the path of its package. -/
structure TypeRef where
  package : String
  type : Facts.TypeDecl
  deriving DecidableEq, Repr

def TypeRef.id (t : TypeRef) : String := t.package ++ "." ++ t.type.name

/-- The structs of a project in order. -/
def structs (p : Facts.Project) : List TypeRef :=
  p.packages.flatMap fun pkg => pkg.structs.map fun t => ⟨pkg.path, t⟩

/-- The interfaces of a project in order. -/
def interfaces (p : Facts.Project) : List TypeRef :=
  p.packages.flatMap fun pkg => pkg.interfaces.map fun t => ⟨pkg.path, t⟩

inductive Strategy where
  | heuristic
  | oracle
  deriving DecidableEq, Repr

def Strategy.names : List (String × Strategy) :=
  [("heuristic", .heuristic), ("oracle", .oracle)]

def Strategy.codec (ν : Type) [Medium ν] : Codec ν Strategy := .variants names

def Strategy.source : Strategy → InferenceSource
  | .heuristic => .inferred
  | .oracle => .oracle

/-- A struct that implements an interface, with the strategy that found it. -/
structure Implementation where
  structName : String
  structPackage : String
  interfaceName : String
  interfacePackage : String
  matchedMethods : List String
  strategy : Strategy
  confidence : Float
  deriving DecidableEq, Repr

namespace Implementation

open Codec (text)

def codec (ν : Type) [Medium ν] : Codec ν Implementation :=
  .record "InferredImplementation"
    (.cons (.required "structName" text) <|
      .cons (.required "structPackage" text) <|
      .cons (.required "interfaceName" text) <|
      .cons (.required "interfacePackage" text) <|
      .cons (.required "matchedMethods" text.list) <|
      .cons (.required "strategy" (Strategy.codec ν)) <|
      .cons (.required "confidence" Codec.real) .nil)
    (fun (structName, structPackage, interfaceName, interfacePackage, matchedMethods, strategy,
        confidence, _) =>
      ⟨structName, structPackage, interfaceName, interfacePackage, matchedMethods, strategy,
        confidence⟩)
    (fun i => (i.structName, i.structPackage, i.interfaceName, i.interfacePackage, i.matchedMethods,
      i.strategy, i.confidence, ()))

def make (strategy : Strategy) (confidence : Float) (concrete interface : TypeRef) :
    Implementation :=
  { structName := concrete.type.name
    structPackage := concrete.package
    interfaceName := interface.type.name
    interfacePackage := interface.package
    matchedMethods := interface.type.methodNames
    strategy
    confidence }

def byHeuristic (concrete interface : TypeRef) : Implementation :=
  make .heuristic Confidence.heuristic concrete interface

def byOracle (confidence : Float) (concrete interface : TypeRef) : Implementation :=
  make .oracle (Confidence.clamp confidence) concrete interface

def structId (i : Implementation) : String := i.structPackage ++ "." ++ i.structName

def interfaceId (i : Implementation) : String := i.interfacePackage ++ "." ++ i.interfaceName

end Implementation

/-- Whether a struct implements an interface, by method names. -/
def implements (concrete interface : TypeRef) : Bool :=
  !interface.type.methods.isEmpty &&
    interface.type.methodNames.all concrete.type.methodNames.contains

/-- The pairs of struct and interface that match by method names, as indices. -/
def pairs (structs interfaces : List TypeRef) : List (Nat × Nat) :=
  structs.zipIdx.flatMap fun (s, si) =>
    interfaces.zipIdx.filterMap fun (i, ii) => if implements s i then some (si, ii) else none

/-- What is made of the types at two places. -/
def implementationAt? (make : TypeRef → TypeRef → Implementation) (structs interfaces : List TypeRef)
    (place : Nat × Nat) : Option Implementation :=
  match structs[place.1]?, interfaces[place.2]? with
  | some s, some i => some (make s i)
  | _, _ => none

/-- The implementations among the given types by method names, by struct and then by interface. -/
def heuristic (structs interfaces : List TypeRef) : List Implementation :=
  (pairs structs interfaces).filterMap
    (implementationAt? Implementation.byHeuristic structs interfaces)

end Matching

end ArchAtlas
