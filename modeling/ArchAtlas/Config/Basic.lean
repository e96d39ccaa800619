import ArchAtlas.Matching.Run

/-!
The configuration of a survey, section by section, with its defaults and how it is written and read.
Every field may be left out; no section may have a name that is not known.
-/

namespace ArchAtlas

namespace Config

/-- How severe a cycle of packages is. -/
structure Cycles where
  /-- The greatest length of a cycle that is only a warning. -/
  warningMaxLength : UInt64
  deriving DecidableEq, Repr

def Cycles.default : Cycles := ⟨2⟩

/-- The shape of a call that registers an entry point. -/
structure CallShape where
  method : Option String
  methodSuffix : Option String
  /-- A part of the receiver's type, where the receiver is known. -/
  receiverContains : Option String
  pathArgIndex : Option UInt64
  handlerArgIndex : Option UInt64
  deriving DecidableEq, Repr

def CallShape.default : CallShape := ⟨none, none, none, none, none⟩

/-- A call of a given name. -/
def CallShape.ofMethod (name : String) : CallShape := { default with method := some name }

/-- A call whose name ends in a given way. -/
def CallShape.ofMethodSuffix (suffix : String) : CallShape :=
  { default with methodSuffix := some suffix }

/-- A framework declared by the user. -/
structure Framework where
  name : String
  protocol : String
  patterns : List CallShape
  deriving DecidableEq, Repr

/-- An entry point declared by hand. -/
structure ManualEntry where
  function : String
  protocol : String
  deriving DecidableEq, Repr

/-- Which calls are left out of call chains. -/
structure Noise where
  builtins : List String
  /-- Package qualifiers whose calls are left out. -/
  stdlibPrefixes : List String
  /-- Starts of callee names that are left out. -/
  infrastructurePrefixes : List String
  /-- Regular expressions for callee names that are left out. -/
  accessorPatterns : List String
  deriving DecidableEq, Repr

def Noise.default : Noise where
  builtins :=
    ["make", "len", "append", "cap", "new", "delete", "copy", "close", "panic", "recover", "print",
      "println", "int", "int8", "int16", "int32", "int64", "uint", "uint8", "uint16", "uint32",
      "uint64", "string", "bool", "float32", "float64", "byte", "rune", "error"]
  stdlibPrefixes :=
    ["fmt", "json", "strconv", "time", "errors", "strings", "sort", "sync", "io", "bytes", "math",
      "os", "log", "context", "net", "http", "reflect", "unicode", "filepath", "path", "regexp",
      "bufio", "runtime"]
  infrastructurePrefixes := ["w.", "ctx.", "err."]
  accessorPatterns := ["^r\\.(URL|Context|Body|Header|PathValue|Method|Form)"]

/-- Nothing is left out. -/
def Noise.disabled : Noise := ⟨[], [], [], []⟩

structure Flow where
  callEdgeConfidence : Float
  /-- The protocols of the entry points to keep; all without a list. -/
  protocols : Option (List String)
  /-- Frameworks that are taken as present. -/
  frameworks : List String
  customFrameworks : List Framework
  entryPoints : List ManualEntry
  noise : Noise
  deriving DecidableEq, Repr

def Flow.default : Flow := ⟨Confidence.directCall, none, [], [], [], .default⟩

def Flow.addFramework (f : Flow) (key : String) : Flow :=
  { f with frameworks := f.frameworks ++ [key] }

def Flow.addCustomFramework (f : Flow) (framework : Framework) : Flow :=
  { f with customFrameworks := f.customFrameworks ++ [framework] }

def Flow.addEntryPoint (f : Flow) (function protocol : String) : Flow :=
  { f with entryPoints := f.entryPoints ++ [⟨function, protocol⟩] }

structure Oracle where
  initTimeoutMs : UInt64
  queryTimeoutMs : UInt64
  /-- The time for all queries together. -/
  deadlineMs : Option UInt64
  confidence : Float
  deriving DecidableEq, Repr

def Oracle.default : Oracle := ⟨30000, 30000, none, Confidence.oracle⟩

/-- The time limits and the trust that matching works with. -/
def Oracle.policy (o : Oracle) : Matching.Policy :=
  ⟨o.initTimeoutMs.toNat, o.queryTimeoutMs.toNat, o.deadlineMs.map UInt64.toNat, o.confidence⟩

/-- How a file is folded into a package. -/
structure Aggregation where
  /-- The number of directories kept; all without a number. -/
  packageDepth : Option UInt64
  /-- Directories below which packages begin. -/
  sourceRoots : List String
  deriving DecidableEq, Repr

def Aggregation.default : Aggregation := ⟨some 1, ["src"]⟩

end Config

/-- The whole configuration. -/
structure Config where
  cycles : Config.Cycles
  flow : Config.Flow
  oracle : Config.Oracle
  aggregation : Config.Aggregation
  deriving DecidableEq, Repr

namespace Config

def default : Config := ⟨.default, .default, .default, .default⟩

open Codec (text)

variable (ν : Type) [Medium ν]

def Cycles.codec : Codec ν Cycles :=
  .record "CycleConfig"
    (.cons (.defaulted "warning_max_length" (.u64 .usize) Cycles.default.warningMaxLength) .nil)
    (fun (n, _) => ⟨n⟩)
    (fun c => (c.warningMaxLength, ()))

def CallShape.codec : Codec ν CallShape :=
  .record "CustomCallPattern"
    (.cons (.optional "method" text) <|
      .cons (.optional "method_suffix" text) <|
      .cons (.optional "receiver_contains" text) <|
      .cons (.optional "path_arg_index" (.u64 .usize)) <|
      .cons (.optional "handler_arg_index" (.u64 .usize)) .nil)
    (fun (method, methodSuffix, receiverContains, pathArgIndex, handlerArgIndex, _) =>
      ⟨method, methodSuffix, receiverContains, pathArgIndex, handlerArgIndex⟩)
    (fun s => (s.method, s.methodSuffix, s.receiverContains, s.pathArgIndex, s.handlerArgIndex, ()))

def Framework.codec : Codec ν Framework :=
  .record "CustomFrameworkConfig"
    (.cons (.required "name" text) <|
      .cons (.required "protocol" text) <|
      .cons (.required "patterns" (CallShape.codec ν).list) .nil)
    (fun (name, protocol, patterns, _) => ⟨name, protocol, patterns⟩)
    (fun f => (f.name, f.protocol, f.patterns, ()))

def ManualEntry.codec : Codec ν ManualEntry :=
  .record "ManualEntryPoint"
    (.cons (.required "function" text) <|
      .cons (.required "protocol" text) .nil)
    (fun (function, protocol, _) => ⟨function, protocol⟩)
    (fun e => (e.function, e.protocol, ()))

def Noise.codec : Codec ν Noise :=
  .record "NoiseConfig"
    (.cons (.defaulted "builtins" text.list Noise.default.builtins) <|
      .cons (.defaulted "stdlib_prefixes" text.list Noise.default.stdlibPrefixes) <|
      .cons (.defaulted "infrastructure_prefixes" text.list Noise.default.infrastructurePrefixes) <|
      .cons (.defaulted "accessor_patterns" text.list Noise.default.accessorPatterns) .nil)
    (fun (builtins, stdlibPrefixes, infrastructurePrefixes, accessorPatterns, _) =>
      ⟨builtins, stdlibPrefixes, infrastructurePrefixes, accessorPatterns⟩)
    (fun n =>
      (n.builtins, n.stdlibPrefixes, n.infrastructurePrefixes, n.accessorPatterns, ()))

def Flow.codec : Codec ν Flow :=
  .record "FlowConfig"
    (.cons (.defaulted "call_edge_confidence" .real Flow.default.callEdgeConfidence) <|
      .cons (.defaulted "protocols" text.list.option Flow.default.protocols) <|
      .cons (.defaulted "frameworks" text.list Flow.default.frameworks) <|
      .cons (.defaulted "custom_frameworks" (Framework.codec ν).list
        Flow.default.customFrameworks) <|
      .cons (.defaulted "entry_points" (ManualEntry.codec ν).list Flow.default.entryPoints) <|
      .cons (.defaulted "noise" (Noise.codec ν) Flow.default.noise) .nil)
    (fun (callEdgeConfidence, protocols, frameworks, customFrameworks, entryPoints, noise, _) =>
      ⟨callEdgeConfidence, protocols, frameworks, customFrameworks, entryPoints, noise⟩)
    (fun f => (f.callEdgeConfidence, f.protocols, f.frameworks, f.customFrameworks, f.entryPoints,
      f.noise, ()))

def Oracle.codec : Codec ν Oracle :=
  .record "OracleConfig"
    (.cons (.defaulted "init_timeout_ms" (.u64 .u64) Oracle.default.initTimeoutMs) <|
      .cons (.defaulted "query_timeout_ms" (.u64 .u64) Oracle.default.queryTimeoutMs) <|
      .cons (.defaulted "deadline_ms" (Codec.u64 .u64).option Oracle.default.deadlineMs) <|
      .cons (.defaulted "confidence" .real Oracle.default.confidence) .nil)
    (fun (initTimeoutMs, queryTimeoutMs, deadlineMs, confidence, _) =>
      ⟨initTimeoutMs, queryTimeoutMs, deadlineMs, confidence⟩)
    (fun o => (o.initTimeoutMs, o.queryTimeoutMs, o.deadlineMs, o.confidence, ()))

def Aggregation.codec : Codec ν Aggregation :=
  .record "AggregationConfig"
    (.cons (.defaulted "package_depth" (Codec.u64 .usize).option Aggregation.default.packageDepth) <|
      .cons (.defaulted "source_roots" text.list Aggregation.default.sourceRoots) .nil)
    (fun (packageDepth, sourceRoots, _) => ⟨packageDepth, sourceRoots⟩)
    (fun a => (a.packageDepth, a.sourceRoots, ()))

def codec : Codec ν Config :=
  .recordWith true "EngineConfig"
    (.cons (.defaulted "cycles" (Cycles.codec ν) .default) <|
      .cons (.defaulted "flow" (Flow.codec ν) .default) <|
      .cons (.defaulted "oracle" (Oracle.codec ν) .default) <|
      .cons (.defaulted "aggregation" (Aggregation.codec ν) .default) .nil)
    (fun (cycles, flow, oracle, aggregation, _) => ⟨cycles, flow, oracle, aggregation⟩)
    (fun c => (c.cycles, c.flow, c.oracle, c.aggregation, ()))

end Config

end ArchAtlas
