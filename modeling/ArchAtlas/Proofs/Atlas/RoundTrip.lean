import ArchAtlas.Atlas
import ArchAtlas.Proofs.Codec.Recovery
import ArchAtlas.Proofs.Timestamp

namespace ArchAtlas

open Codec (list_carries record_carries variants_carries)

/-! ## The numbers of an atlas -/

def PackageNode.counts (n : PackageNode) : List Nat :=
  [n.fileCount, n.stats.structs, n.stats.interfaces, n.stats.functions]

def CapabilityNode.counts (n : CapabilityNode) : List Nat :=
  [n.methodCount, n.fieldCount, n.fanIn, n.fanOut]

def Atlas.Completeness.reals (c : Completeness) : List Float :=
  [c.package, c.capability, c.spawn, c.flow]

def Atlas.reals (a : Atlas) : List Float :=
  a.layers.capability.edges.map CapabilityEdge.confidence ++
    a.layers.flow.callChains.flatMap (fun c => c.calls.map CallEdge.confidence) ++
    a.metadata.completeness.reals

def Atlas.counts (a : Atlas) : List Nat :=
  a.layers.package.nodes.flatMap PackageNode.counts ++
    a.layers.capability.nodes.flatMap CapabilityNode.counts ++
    [a.metadata.performance.packageCount]

/-! ## The package layer -/

@[simp]
theorem PackageKind.codec_carries (k : PackageKind) : (PackageKind.codec Json).Carries k := by
  apply variants_carries (by decide)
  cases k <;> decide

@[simp]
theorem Severity.codec_carries (s : Severity) : (Severity.codec Json).Carries s := by
  apply variants_carries (by decide)
  cases s <;> decide

@[simp]
theorem Dependency.codec_carries (d : Dependency) : (Dependency.codec Json).Carries d := by
  apply record_carries (by decide) rfl
  simp

@[simp]
theorem PackageCycle.codec_carries (c : PackageCycle) : (PackageCycle.codec Json).Carries c := by
  apply record_carries (by decide) rfl
  simp

theorem PackageNode.codec_carries {n : PackageNode}
    (fits : ∀ k ∈ n.counts, k < Width.usize.size) : (PackageNode.codec Json).Carries n := by
  simp only [counts, List.forall_mem_cons] at fits
  obtain ⟨files, structs, interfaces, functions, -⟩ := fits
  have stats : (PackageStats.codec Json).Carries n.stats := by
    apply record_carries (by decide) rfl
    simp [structs, interfaces, functions]
  apply record_carries (by decide) rfl
  simp [files, stats]

theorem PackageGraph.codec_carries {g : PackageGraph}
    (fits : ∀ n ∈ g.nodes, ∀ k ∈ n.counts, k < Width.usize.size) :
    (PackageGraph.codec Json).Carries g := by
  have nodes := list_carries fun n mem => PackageNode.codec_carries (fits n mem)
  apply record_carries (by decide) rfl
  simp [nodes]

/-! ## The capability layer -/

@[simp]
theorem CapabilityNodeKind.codec_carries (k : CapabilityNodeKind) : (CapabilityNodeKind.codec Json).Carries k := by
  apply variants_carries (by decide)
  cases k <;> decide

@[simp]
theorem CapabilityEdgeKind.codec_carries (k : CapabilityEdgeKind) : (CapabilityEdgeKind.codec Json).Carries k := by
  apply variants_carries (by decide)
  cases k <;> decide

@[simp]
theorem UsageContext.codec_carries (c : UsageContext) : (UsageContext.codec Json).Carries c := by
  apply record_carries (by decide) rfl
  simp

@[simp]
theorem UsageRisk.codec_carries (r : UsageRisk) : (UsageRisk.codec Json).Carries r := by
  apply record_carries (by decide) rfl
  simp

theorem CapabilityNode.codec_carries {n : CapabilityNode}
    (fits : ∀ k ∈ n.counts, k < Width.usize.size) : (CapabilityNode.codec Json).Carries n := by
  simp only [counts, List.forall_mem_cons] at fits
  obtain ⟨methods, fields, fanIn, fanOut, -⟩ := fits
  apply record_carries (by decide) rfl
  simp [methods, fields, fanIn, fanOut]

theorem CapabilityEdge.codec_carries {e : CapabilityEdge} (finite : e.confidence.isFinite = true) :
    (CapabilityEdge.codec Json).Carries e := by
  apply record_carries (by decide) rfl
  simp [finite]

theorem CapabilityGraph.codec_carries {g : CapabilityGraph}
    (fits : ∀ n ∈ g.nodes, ∀ k ∈ n.counts, k < Width.usize.size)
    (finite : ∀ e ∈ g.edges, e.confidence.isFinite = true) :
    (CapabilityGraph.codec Json).Carries g := by
  have nodes := list_carries fun n mem => CapabilityNode.codec_carries (fits n mem)
  have edges := list_carries fun e mem => CapabilityEdge.codec_carries (finite e mem)
  apply record_carries (by decide) rfl
  simp [nodes, edges]

/-! ## The spawn layer -/

@[simp]
theorem Place.codec_carries (p : Place) : (Place.codec Json).Carries p := by
  apply record_carries (by decide) rfl
  simp

@[simp]
theorem TaskKind.codec_carries (k : TaskKind) : (TaskKind.codec Json).Carries k := by
  apply variants_carries (by decide)
  cases k <;> decide

@[simp]
theorem SpawnType.codec_carries (t : SpawnType) : (SpawnType.codec Json).Carries t := by
  apply variants_carries (by decide)
  cases t <;> decide

@[simp]
theorem TaskNode.codec_carries (n : TaskNode) : (TaskNode.codec Json).Carries n := by
  apply record_carries (by decide) rfl
  simp

@[simp]
theorem SpawnEdgeKind.codec_carries (k : SpawnEdgeKind) : (SpawnEdgeKind.codec Json).Carries k := by
  apply variants_carries (by decide)
  cases k <;> decide

@[simp]
theorem SpawnEdge.codec_carries (e : SpawnEdge) : (SpawnEdge.codec Json).Carries e := by
  apply record_carries (by decide) rfl
  simp

@[simp]
theorem ChannelDirection.codec_carries (d : ChannelDirection) : (ChannelDirection.codec Json).Carries d := by
  apply variants_carries (by decide)
  cases d <;> decide

@[simp]
theorem ChannelInfo.codec_carries (c : ChannelInfo) : (ChannelInfo.codec Json).Carries c := by
  apply record_carries (by decide) rfl
  simp

@[simp]
theorem SpawnTopology.codec_carries (t : SpawnTopology) : (SpawnTopology.codec Json).Carries t := by
  apply record_carries (by decide) rfl
  simp

/-! ## The flow layer -/

@[simp]
theorem HttpMethod.codec_carries (m : HttpMethod) : (HttpMethod.codec Json).Carries m := by
  apply variants_carries (by decide)
  cases m <;> decide

@[simp]
theorem EntryPoint.codec_carries (e : EntryPoint) : (EntryPoint.codec Json).Carries e := by
  apply record_carries (by decide) rfl
  simp

@[simp]
theorem CallEdgeKind.codec_carries (k : CallEdgeKind) : (CallEdgeKind.codec Json).Carries k := by
  apply variants_carries (by decide)
  cases k <;> decide

theorem CallEdge.codec_carries {e : CallEdge} (finite : e.confidence.isFinite = true) :
    (CallEdge.codec Json).Carries e := by
  apply record_carries (by decide) rfl
  simp [finite]

theorem CallChain.codec_carries {c : CallChain}
    (finite : ∀ e ∈ c.calls, e.confidence.isFinite = true) : (CallChain.codec Json).Carries c := by
  have calls := list_carries fun e mem => CallEdge.codec_carries (finite e mem)
  apply record_carries (by decide) rfl
  simp [calls]

theorem FlowGraph.codec_carries {g : FlowGraph}
    (finite : ∀ c ∈ g.callChains, ∀ e ∈ c.calls, e.confidence.isFinite = true) :
    (FlowGraph.codec Json).Carries g := by
  have chains := list_carries fun c mem => CallChain.codec_carries (finite c mem)
  apply record_carries (by decide) rfl
  simp [chains]

/-- The frameworks are written as the list of their keys. -/
@[simp]
theorem Frameworks.codec_carries (f : Frameworks) : (Frameworks.codec Json).Carries f := by
  have keys : (Codec.text : Codec Json String).list.Carries f.keys := by simp
  constructor
  · exact keys.present
  · intro v moved
    have read := keys.recovers v moved
    simp [codec, read, Except.map]

/-! ## Metadata, and the whole -/

namespace Atlas

theorem Completeness.codec_carries {c : Completeness} (finite : ∀ x ∈ c.reals, x.isFinite = true) :
    (Completeness.codec Json).Carries c := by
  simp only [reals, List.forall_mem_cons] at finite
  obtain ⟨package, capability, spawn, flow, -⟩ := finite
  apply record_carries (by decide) rfl
  simp [package, capability, spawn, flow]

theorem Performance.codec_carries {p : Performance} (fits : p.packageCount < Width.usize.size) :
    (Performance.codec Json).Carries p := by
  apply record_carries (by decide) rfl
  simp [fits]

theorem Metadata.codec_carries {m : Metadata} (dated : m.generatedAt.Valid)
    (finite : ∀ x ∈ m.completeness.reals, x.isFinite = true)
    (fits : m.performance.packageCount < Width.usize.size) : (Metadata.codec Json).Carries m := by
  have generatedAt := Codec.timestamp_carries (Timestamp.parse_render dated)
  have completeness := Completeness.codec_carries finite
  have performance := Performance.codec_carries fits
  apply record_carries (by decide) rfl
  simp [generatedAt, completeness, performance]

/-- An atlas is carried if its numbers are finite, its counts fit and it was made at a point in time
that there is. -/
theorem codec_carries {a : Atlas} (dated : a.metadata.generatedAt.Valid)
    (finite : ∀ x ∈ a.reals, x.isFinite = true) (fits : ∀ n ∈ a.counts, n < Width.usize.size) :
    (Atlas.codec Json).Carries a := by
  simp only [reals, List.forall_mem_append, List.forall_mem_map, List.forall_mem_flatMap] at finite
  simp only [counts, List.forall_mem_append, List.forall_mem_flatMap, List.forall_mem_singleton]
    at fits
  obtain ⟨⟨edges, calls⟩, shares⟩ := finite
  obtain ⟨⟨packages, capabilities⟩, packageCount⟩ := fits
  have package := PackageGraph.codec_carries packages
  have capability := CapabilityGraph.codec_carries capabilities edges
  have flow := FlowGraph.codec_carries calls
  have metadata := Metadata.codec_carries dated shares packageCount
  have layers : (Layers.codec Json).Carries a.layers := by
    apply record_carries (by decide) rfl
    simp [package, capability, flow]
  apply record_carries (by decide) rfl
  simp [layers, metadata]

end Atlas

end ArchAtlas
