import ArchAtlas.Config.Basic
import ArchAtlas.Proofs.Codec.Omission
import Mathlib.Data.Finset.Basic

/-!
A configuration with settings left out. Main statement: a configuration with finite numbers is read
again as it was written; and whatever settings are deleted from what was written, single ones or whole
sections, what is read is the configuration with the defaults for just these. A setting that is null
counts as written.

* `Setting` lists what can be left out, and `Setting.path` the keys that lead to it;
* `Config.reset` puts settings back to their defaults;
* one lemma for each section, from its settings.
-/

namespace ArchAtlas.Config

open Codec (list_carries list_flat list_refills option_refills real_refills record_carries
  recordWith_refills text_carries u64_carries u64_flat u64_refills)

/-- The fields of a configuration: its sections, and the fields of each. -/
inductive Setting where
  | cycles
  | warningMaxLength
  | flow
  | callEdgeConfidence
  | protocols
  | frameworks
  | customFrameworks
  | entryPoints
  | noise
  | builtins
  | stdlibPrefixes
  | infrastructurePrefixes
  | accessorPatterns
  | oracle
  | initTimeoutMs
  | queryTimeoutMs
  | deadlineMs
  | confidence
  | aggregation
  | packageDepth
  | sourceRoots
  deriving DecidableEq, Repr

namespace Setting

def path : Setting → List String
  | cycles => ["cycles"]
  | warningMaxLength => ["cycles", "warning_max_length"]
  | flow => ["flow"]
  | callEdgeConfidence => ["flow", "call_edge_confidence"]
  | protocols => ["flow", "protocols"]
  | frameworks => ["flow", "frameworks"]
  | customFrameworks => ["flow", "custom_frameworks"]
  | entryPoints => ["flow", "entry_points"]
  | noise => ["flow", "noise"]
  | builtins => ["flow", "noise", "builtins"]
  | stdlibPrefixes => ["flow", "noise", "stdlib_prefixes"]
  | infrastructurePrefixes => ["flow", "noise", "infrastructure_prefixes"]
  | accessorPatterns => ["flow", "noise", "accessor_patterns"]
  | oracle => ["oracle"]
  | initTimeoutMs => ["oracle", "init_timeout_ms"]
  | queryTimeoutMs => ["oracle", "query_timeout_ms"]
  | deadlineMs => ["oracle", "deadline_ms"]
  | confidence => ["oracle", "confidence"]
  | aggregation => ["aggregation"]
  | packageDepth => ["aggregation", "package_depth"]
  | sourceRoots => ["aggregation", "source_roots"]

def all : List Setting :=
  [cycles, warningMaxLength, flow, callEdgeConfidence, protocols, frameworks, customFrameworks,
    entryPoints, noise, builtins, stdlibPrefixes, infrastructurePrefixes, accessorPatterns, oracle,
    initTimeoutMs, queryTimeoutMs, deadlineMs, confidence, aggregation, packageDepth, sourceRoots]

def ofPath? (keys : List String) : Option Setting :=
  all.find? fun s => s.path = keys

theorem ofPath?_path (s : Setting) : ofPath? s.path = some s := by
  cases s <;> decide

theorem path_injective : Function.Injective path := by
  intro s t same
  apply Option.some.inj
  rw [← ofPath?_path s, same, ofPath?_path t]

/-- Whether a place is that of a setting to be left out. -/
def leftOut (omitted : Finset Setting) (keys : List String) : Bool :=
  decide (∃ s ∈ omitted, s.path = keys)

theorem leftOut_path (omitted : Finset Setting) (s : Setting) :
    leftOut omitted s.path = decide (s ∈ omitted) := by
  simp [leftOut, path_injective.eq_iff]

end Setting

open Setting (leftOut leftOut_path)

/-! ## Settings put back to their defaults -/

section

variable (omitted : Finset Setting)

def Cycles.reset (c : Cycles) : Cycles where
  warningMaxLength :=
    if .warningMaxLength ∈ omitted then Cycles.default.warningMaxLength else c.warningMaxLength

def Noise.reset (n : Noise) : Noise where
  builtins := if .builtins ∈ omitted then Noise.default.builtins else n.builtins
  stdlibPrefixes :=
    if .stdlibPrefixes ∈ omitted then Noise.default.stdlibPrefixes else n.stdlibPrefixes
  infrastructurePrefixes :=
    if .infrastructurePrefixes ∈ omitted then Noise.default.infrastructurePrefixes
    else n.infrastructurePrefixes
  accessorPatterns :=
    if .accessorPatterns ∈ omitted then Noise.default.accessorPatterns else n.accessorPatterns

def Flow.reset (f : Flow) : Flow where
  callEdgeConfidence :=
    if .callEdgeConfidence ∈ omitted then Flow.default.callEdgeConfidence else f.callEdgeConfidence
  protocols := if .protocols ∈ omitted then Flow.default.protocols else f.protocols
  frameworks := if .frameworks ∈ omitted then Flow.default.frameworks else f.frameworks
  customFrameworks :=
    if .customFrameworks ∈ omitted then Flow.default.customFrameworks else f.customFrameworks
  entryPoints := if .entryPoints ∈ omitted then Flow.default.entryPoints else f.entryPoints
  noise := if .noise ∈ omitted then Flow.default.noise else f.noise.reset omitted

def Oracle.reset (o : Oracle) : Oracle where
  initTimeoutMs := if .initTimeoutMs ∈ omitted then Oracle.default.initTimeoutMs else o.initTimeoutMs
  queryTimeoutMs :=
    if .queryTimeoutMs ∈ omitted then Oracle.default.queryTimeoutMs else o.queryTimeoutMs
  deadlineMs := if .deadlineMs ∈ omitted then Oracle.default.deadlineMs else o.deadlineMs
  confidence := if .confidence ∈ omitted then Oracle.default.confidence else o.confidence

def Aggregation.reset (a : Aggregation) : Aggregation where
  packageDepth := if .packageDepth ∈ omitted then Aggregation.default.packageDepth else a.packageDepth
  sourceRoots := if .sourceRoots ∈ omitted then Aggregation.default.sourceRoots else a.sourceRoots

/-- The configuration with the default for each setting that is left out. -/
def reset (c : Config) : Config where
  cycles := if .cycles ∈ omitted then Config.default.cycles else c.cycles.reset omitted
  flow := if .flow ∈ omitted then Config.default.flow else c.flow.reset omitted
  oracle := if .oracle ∈ omitted then Config.default.oracle else c.oracle.reset omitted
  aggregation :=
    if .aggregation ∈ omitted then Config.default.aggregation else c.aggregation.reset omitted

end

theorem reset_empty (c : Config) : c.reset ∅ = c := by
  simp [reset, Cycles.reset, Noise.reset, Flow.reset, Oracle.reset, Aggregation.reset]

/-- The settings that are none. -/
def Unset (c : Config) : Setting → Prop
  | .protocols => c.flow.protocols = none
  | .deadlineMs => c.oracle.deadlineMs = none
  | .packageDepth => c.aggregation.packageDepth = none
  | _ => False

/-- The numbers of a configuration that JSON may have no form for. -/
def reals (c : Config) : List Float :=
  [c.flow.callEdgeConfidence, c.oracle.confidence]

/-! ## Reading what is left -/

@[simp]
theorem CallShape.codec_carries (s : CallShape) : (CallShape.codec Json).Carries s := by
  apply record_carries (by decide) rfl
  simp

@[simp]
theorem Framework.codec_carries (f : Framework) : (Framework.codec Json).Carries f := by
  apply record_carries (by decide) rfl
  simp

@[simp]
theorem ManualEntry.codec_carries (e : ManualEntry) : (ManualEntry.codec Json).Carries e := by
  apply record_carries (by decide) rfl
  simp

section

variable (omitted : Finset Setting)

theorem Cycles.codec_refills (c : Cycles) :
    (Cycles.codec Json).Refills (fun path => leftOut omitted ("cycles" :: path)) c
      (c.reset omitted) := by
  apply recordWith_refills (by decide) rfl
  exact ⟨fun _ => Field.defaulted_reads (leftOut_path omitted .warningMaxLength)
    (u64_refills _ .usize nofun _), trivial⟩

theorem Noise.codec_refills (n : Noise) :
    (Noise.codec Json).Refills (fun path => leftOut omitted ("flow" :: "noise" :: path)) n
      (n.reset omitted) := by
  apply recordWith_refills (by decide) rfl
  have texts (ts : List String) (gone : List String → Bool) :=
    list_refills gone text_carries ts
  exact ⟨fun _ => Field.defaulted_reads (leftOut_path omitted .builtins) (texts _ _),
    fun _ => Field.defaulted_reads (leftOut_path omitted .stdlibPrefixes) (texts _ _),
    fun _ => Field.defaulted_reads (leftOut_path omitted .infrastructurePrefixes) (texts _ _),
    fun _ => Field.defaulted_reads (leftOut_path omitted .accessorPatterns) (texts _ _), trivial⟩

theorem Flow.codec_refills {f : Flow} (finite : f.callEdgeConfidence.isFinite = true) :
    (Flow.codec Json).Refills (fun path => leftOut omitted ("flow" :: path)) f (f.reset omitted) := by
  have names (ts : List String) : (Codec.text : Codec Json String).list.Carries ts :=
    list_carries fun t _ => text_carries t
  apply recordWith_refills (by decide) rfl
  exact ⟨fun _ => Field.defaulted_reads (leftOut_path omitted .callEdgeConfidence)
      (real_refills _ finite),
    fun _ => Field.defaulted_reads (leftOut_path omitted .protocols)
      (option_refills _ (list_flat _) names _),
    fun _ => Field.defaulted_reads (leftOut_path omitted .frameworks)
      (list_refills _ text_carries _),
    fun _ => Field.defaulted_reads (leftOut_path omitted .customFrameworks)
      (list_refills _ Framework.codec_carries _),
    fun _ => Field.defaulted_reads (leftOut_path omitted .entryPoints)
      (list_refills _ ManualEntry.codec_carries _),
    fun _ => Field.defaulted_reads (leftOut_path omitted .noise)
      (Noise.codec_refills omitted f.noise), trivial⟩

theorem Oracle.codec_refills {o : Oracle} (finite : o.confidence.isFinite = true) :
    (Oracle.codec Json).Refills (fun path => leftOut omitted ("oracle" :: path)) o
      (o.reset omitted) := by
  apply recordWith_refills (by decide) rfl
  exact ⟨fun _ => Field.defaulted_reads (leftOut_path omitted .initTimeoutMs)
      (u64_refills _ .u64 nofun _),
    fun _ => Field.defaulted_reads (leftOut_path omitted .queryTimeoutMs) (u64_refills _ .u64 nofun _),
    fun _ => Field.defaulted_reads (leftOut_path omitted .deadlineMs)
      (option_refills _ (u64_flat .u64) (u64_carries nofun) _),
    fun _ => Field.defaulted_reads (leftOut_path omitted .confidence) (real_refills _ finite),
    trivial⟩

theorem Aggregation.codec_refills (a : Aggregation) :
    (Aggregation.codec Json).Refills (fun path => leftOut omitted ("aggregation" :: path)) a
      (a.reset omitted) := by
  apply recordWith_refills (by decide) rfl
  exact ⟨fun _ => Field.defaulted_reads (leftOut_path omitted .packageDepth)
      (option_refills _ (u64_flat .usize) (u64_carries nofun) _),
    fun _ => Field.defaulted_reads (leftOut_path omitted .sourceRoots)
      (list_refills _ text_carries _), trivial⟩

theorem codec_refills {c : Config} (finite : ∀ x ∈ c.reals, x.isFinite = true) :
    (codec Json).Refills (leftOut omitted) c (c.reset omitted) := by
  obtain ⟨trusted, believed⟩ : c.flow.callEdgeConfidence.isFinite = true ∧
      c.oracle.confidence.isFinite = true := by
    simpa [reals] using finite
  apply recordWith_refills (by decide) rfl
  exact ⟨fun _ => Field.defaulted_reads (leftOut_path omitted .cycles)
      (Cycles.codec_refills omitted c.cycles),
    fun _ => Field.defaulted_reads (leftOut_path omitted .flow) (Flow.codec_refills omitted trusted),
    fun _ => Field.defaulted_reads (leftOut_path omitted .oracle)
      (Oracle.codec_refills omitted believed),
    fun _ => Field.defaulted_reads (leftOut_path omitted .aggregation)
      (Aggregation.codec_refills omitted c.aggregation), trivial⟩

end

theorem encode_at_unset {c : Config} {s : Setting} (unset : c.Unset s) :
    ((codec Json).encode c).at? s.path = some .null := by
  cases s with
  | protocols =>
    have written : ((codec Json).encode c).at? Setting.protocols.path =
        some ((Codec.text : Codec Json String).list.option.encode c.flow.protocols) := rfl
    rw [written, unset]
    rfl
  | deadlineMs =>
    have written : ((codec Json).encode c).at? Setting.deadlineMs.path =
        some ((Codec.u64 .u64 : Codec Json UInt64).option.encode c.oracle.deadlineMs) := rfl
    rw [written, unset]
    rfl
  | packageDepth =>
    have written : ((codec Json).encode c).at? Setting.packageDepth.path =
        some ((Codec.u64 .usize : Codec Json UInt64).option.encode c.aggregation.packageDepth) := rfl
    rw [written, unset]
    rfl
  | _ => cases unset

/-- A configuration is read as it was written; without the settings that are left out, it is read as
written but for the defaults of these. A setting that is none is written as null and so is not left
out: the depth of packages stays none where it is null, and is the default where it is absent. -/
theorem decode_without_settings (c : Config) (finite : ∀ x ∈ c.reals, x.isFinite = true) :
    (∀ v, ((codec Json).encode c).Rearranged v → (codec Json).decode v = .ok c) ∧
    (∀ omitted v, (((codec Json).encode c).without (leftOut omitted)).Rearranged v →
      (codec Json).decode v = .ok (c.reset omitted)) ∧
    (∀ s, c.Unset s → ((codec Json).encode c).at? s.path = some .null) ∧
    (∀ omitted, ∀ s ∈ omitted,
      (((codec Json).encode c).without (leftOut omitted)).at? s.path = none) ∧
    (∀ omitted, .packageDepth ∈ omitted ∨ .aggregation ∈ omitted →
      (c.reset omitted).aggregation.packageDepth = some 1) := by
  refine ⟨?again, fun omitted => codec_refills omitted finite, fun s => encode_at_unset, ?absent,
    ?depth⟩
  case again =>
    have nothing : leftOut ∅ = fun _ => false := by
      funext path
      simp [leftOut]
    have refills := codec_refills ∅ finite
    rw [nothing, reset_empty] at refills
    intro v moved
    apply refills
    rwa [Json.without_none]
  case absent =>
    intro omitted s out
    apply Json.at?_without
    · cases s <;> nofun
    · rw [leftOut_path, decide_eq_true out]
  case depth =>
    intro omitted out
    by_cases whole : .aggregation ∈ omitted
    · simp [reset, whole, Config.default, Aggregation.default]
    · simp [reset, whole, out.resolve_right whole, Aggregation.reset, Aggregation.default]

/-- A configuration with a framework of its own, nothing of which is a default but the protocols and
the deadline, which are none. -/
def deepPackages : Config where
  cycles := ⟨5⟩
  flow := ⟨0.25, none, ["gin"], [⟨"bus", "amqp", [.ofMethod "Subscribe", .default]⟩],
    [⟨"main.run", "cli"⟩], .disabled⟩
  oracle := ⟨100, 18446744073709551615, none, 0.5⟩
  aggregation := ⟨none, ["lib", "cmd"]⟩

theorem decode_without_settings_deepPackages :
    (∀ x ∈ deepPackages.reals, x.isFinite = true) ∧
    (codec Json).decode ((codec Json).encode deepPackages) = .ok deepPackages ∧
    (codec Json).decode (((codec Json).encode deepPackages).without
        (leftOut {.packageDepth, .noise, .oracle, .confidence})) =
      .ok { deepPackages with
        flow := { deepPackages.flow with noise := .default }
        oracle := .default
        aggregation := ⟨some 1, ["lib", "cmd"]⟩ } := by
  have finite : ∀ x ∈ deepPackages.reals, x.isFinite = true := by decide
  obtain ⟨again, without, -⟩ := decode_without_settings deepPackages finite
  exact ⟨finite, again _ (.same _), without _ _ (.same _)⟩

end ArchAtlas.Config
