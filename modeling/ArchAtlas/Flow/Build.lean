import ArchAtlas.Flow.Trace

/-!
Building the flow layer of a project from its configuration.
-/

namespace ArchAtlas.Flow

/-- A configuration whose regular expressions have been read. -/
structure Builder (ρ : Type) where
  config : Config.Flow
  filter : NoiseFilter ρ
  deriving DecidableEq, Repr

variable {ρ : Type}

def Builder.new [Regex ρ] (config : Config.Flow) : Except Config.Error (Builder ρ) :=
  (NoiseFilter.ofConfig config.noise).map fun filter => ⟨config, filter⟩

/-- The frameworks of a project, and those that the configuration takes as present. -/
def Builder.frameworks (b : Builder ρ) (p : Facts.Project) : Frameworks :=
  (detect p).insertAll b.config.frameworks

/-- Whether the configuration keeps entry points of a protocol. -/
def keepsProtocol (config : Config.Flow) (protocol : String) : Bool :=
  match config.protocols with
  | none | some [] => true
  | some allowed => allowed.contains protocol

/-- The flow layer of a project with the given frameworks. -/
def Builder.build [Regex ρ] (b : Builder ρ) (p : Facts.Project) (detected : Frameworks) : FlowGraph :=
  let found := entryPoints detected b.config.customFrameworks b.config.entryPoints p
  let kept := found.filter fun e => keepsProtocol b.config e.protocol
  let index := BodyIndex.build p
  ⟨kept, kept.map (chain b.filter b.config.callEdgeConfidence index)⟩

/-- The frameworks of a project and its flow layer. -/
def Builder.detectAndBuild [Regex ρ] (b : Builder ρ) (p : Facts.Project) : Frameworks × FlowGraph :=
  let detected := b.frameworks p
  (detected, b.build p detected)

end ArchAtlas.Flow
