import ArchAtlas.CapabilityGraph
import ArchAtlas.Flow.Basic
import ArchAtlas.PackageGraph
import ArchAtlas.SpawnTopology

/-!
The atlas: the four layers of a project, with how they were made and how far they can be trusted to be
complete.
-/

namespace ArchAtlas

open Codec (text)

namespace Atlas

structure Layers where
  package : PackageGraph
  capability : CapabilityGraph
  spawn : SpawnTopology
  flow : FlowGraph
  deriving DecidableEq, Repr

/-- An estimate, for each layer, of the share of the truth that it shows. -/
structure Completeness where
  package : Float
  capability : Float
  spawn : Float
  flow : Float
  deriving DecidableEq, Repr

/-- The functions of a project and the methods of its structs. -/
def callables (p : Facts.Project) : List Facts.FuncDecl :=
  p.packages.flatMap fun pkg => pkg.functions ++ pkg.structs.flatMap Facts.TypeDecl.methods

/-- Whether there are functions, and all of them come with a body. -/
def hasAllBodies (p : Facts.Project) : Bool :=
  let found := callables p
  !found.isEmpty && found.all fun f => f.body.isSome

/-- An oracle makes the capability layer more complete, and full bodies the spawn layer. -/
def Completeness.estimate (p : Facts.Project) (oracleUsed : Bool) : Completeness where
  package := 1.0
  capability := if oracleUsed then 0.95 else 0.85
  spawn := if hasAllBodies p then 0.7 else 0.5
  flow := 0.6

structure Performance where
  packageCount : Nat
  totalMs : UInt64
  deriving DecidableEq, Repr

structure Metadata where
  generatedAt : Timestamp
  detectedFrameworks : Frameworks
  /-- The protocols that entry points were filtered by, if they were. -/
  protocols : Option (List String)
  oracleUsed : Bool
  warnings : List String
  completeness : Completeness
  performance : Performance
  deriving DecidableEq, Repr

/-- The version of the format. -/
def currentVersion : String := "1.0"

end Atlas

structure Atlas where
  version : String
  layers : Atlas.Layers
  metadata : Atlas.Metadata
  deriving DecidableEq, Repr

namespace Atlas

variable (ν : Type) [Medium ν]

def Layers.codec : Codec ν Layers :=
  .record "AtlasLayers"
    (.cons (.required "package" (PackageGraph.codec ν)) <|
      .cons (.required "capability" (CapabilityGraph.codec ν)) <|
      .cons (.required "spawn" (SpawnTopology.codec ν)) <|
      .cons (.required "flow" (FlowGraph.codec ν)) .nil)
    (fun (package, capability, spawn, flow, _) => ⟨package, capability, spawn, flow⟩)
    (fun l => (l.package, l.capability, l.spawn, l.flow, ()))

def Completeness.codec : Codec ν Completeness :=
  .record "LayerCompleteness"
    (.cons (.required "package" .real) <|
      .cons (.required "capability" .real) <|
      .cons (.required "spawn" .real) <|
      .cons (.required "flow" .real) .nil)
    (fun (package, capability, spawn, flow, _) => ⟨package, capability, spawn, flow⟩)
    (fun c => (c.package, c.capability, c.spawn, c.flow, ()))

def Performance.codec : Codec ν Performance :=
  .record "AtlasPerformance"
    (.cons (.required "packageCount" .count) <|
      .cons (.required "totalMs" (.u64 .u64)) .nil)
    (fun (packageCount, totalMs, _) => ⟨packageCount, totalMs⟩)
    (fun p => (p.packageCount, p.totalMs, ()))

def Metadata.codec : Codec ν Metadata :=
  .record "AtlasMetadata"
    (.cons (.required "generatedAt" .timestamp) <|
      .cons (.required "detectedFrameworks" (Frameworks.codec ν)) <|
      .cons (.optional "protocols" text.list) <|
      .cons (.required "oracleUsed" .flag) <|
      .cons (.unlessEmpty "warnings" text) <|
      .cons (.required "completeness" (Completeness.codec ν)) <|
      .cons (.required "performance" (Performance.codec ν)) .nil)
    (fun (generatedAt, detectedFrameworks, protocols, oracleUsed, warnings, completeness,
        performance, _) =>
      ⟨generatedAt, detectedFrameworks, protocols, oracleUsed, warnings, completeness, performance⟩)
    (fun m => (m.generatedAt, m.detectedFrameworks, m.protocols, m.oracleUsed, m.warnings,
      m.completeness, m.performance, ()))

def codec : Codec ν Atlas :=
  .record "ArchitectureAtlas"
    (.cons (.required "version" text) <|
      .cons (.required "layers" (Layers.codec ν)) <|
      .cons (.required "metadata" (Metadata.codec ν)) .nil)
    (fun (version, layers, metadata, _) => ⟨version, layers, metadata⟩)
    (fun a => (a.version, a.layers, a.metadata, ()))

end Atlas

end ArchAtlas
