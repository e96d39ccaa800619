import ArchAtlas.Config.Basic
import ArchAtlas.Pattern.Parser

/-!
What a configuration must satisfy. Sections are checked in order, and the first violation is reported.
-/

namespace ArchAtlas

namespace Config

/-- The parts of a configuration that are validated. -/
inductive Section where
  | whole
  | cycles
  | flow
  | customFramework
  | noise
  | oracle
  | aggregation
  deriving DecidableEq, Repr

/-- Where a section stands in the configuration. -/
def Section.path : Section → String
  | .whole => "engine"
  | .cycles => "cycles"
  | .flow => "flow"
  | .customFramework => "flow.custom_frameworks"
  | .noise => "flow.noise"
  | .oracle => "oracle"
  | .aggregation => "aggregation"

/-- Rules that are not ranges. -/
inductive Violation where
  | emptyFrameworkName
  | shapeWithoutMethod (framework : String)
  | emptyEntryFunction
  | zeroDeadline
  | nestedSourceRoot
  deriving DecidableEq, Repr

def Violation.message : Violation → String
  | .emptyFrameworkName => "custom framework name must not be empty"
  | .shapeWithoutMethod framework =>
    "custom framework '" ++ framework ++ "': every pattern needs `method` or `method_suffix`"
  | .emptyEntryFunction => "manual entry point needs a function name"
  | .zeroDeadline => "oracle.deadline_ms must be positive; use null for no deadline"
  | .nestedSourceRoot => "aggregation.source_roots entries must be single directory names"

/-- Why a configuration is refused. -/
inductive Error where
  /-- A number is out of its range. -/
  | outOfRange (field value least most hint : String)
  /-- A rule is violated. -/
  | violated (rule : Violation)
  /-- A text is no regular expression. -/
  | invalidPattern (field pattern : String)
  /-- A text is no YAML, or does not fit the model. -/
  | unreadable
  /-- A file cannot be read. -/
  | noFile
  deriving DecidableEq, Repr

def Error.message : Error → String
  | .outOfRange field value least most hint =>
    "Invalid range for field '" ++ field ++ "': " ++ value ++ " not in " ++ least ++ "..=" ++ most ++
      ". " ++ hint
  | .violated rule => "Validation error: " ++ rule.message
  | .invalidPattern field pattern => "Invalid pattern in '" ++ field ++ "': " ++ pattern
  | .unreadable => "YAML parsing error"
  | .noFile => "IO error"

/-- A whole number within bounds. -/
def checkRange (field : String) (value : UInt64) (least most : Nat) (hint : String) :
    Except Error Unit :=
  if least ≤ value.toNat && value.toNat ≤ most then .ok ()
  else .error (.outOfRange field (toString value.toNat) (toString least) (toString most) hint)

/-- A number between zero and one. -/
def checkScore (field : String) (value : Float) : Except Error Unit :=
  if Confidence.isScore value then .ok ()
  else
    .error (.outOfRange field (Decimal.Layout.plain.render value) "0" "1"
      "Confidence scores are probabilities")

def isBlankText (s : String) : Bool :=
  s.toList.all Text.isBlank

def Cycles.validate (c : Cycles) : Except Error Unit :=
  checkRange "cycles.warning_max_length" c.warningMaxLength 0 10000
    "Use 0 to report every cycle as an error"

def Framework.validate (f : Framework) : Except Error Unit :=
  if isBlankText f.name then .error (.violated .emptyFrameworkName)
  else if f.patterns.any fun s => s.method.isNone && s.methodSuffix.isNone then
    .error (.violated (.shapeWithoutMethod f.name))
  else .ok ()

/-- The regular expressions of a noise section. -/
def Noise.patterns {ρ : Type} [Regex ρ] (n : Noise) : Except Error (List ρ) :=
  n.accessorPatterns.mapM fun text =>
    match Regex.compile? text with
    | some p => .ok p
    | none => .error (.invalidPattern "flow.noise.accessor_patterns" text)

def Noise.validate (n : Noise) : Except Error Unit := do
  let _ ← n.patterns (ρ := Pattern)

def Flow.validate (f : Flow) : Except Error Unit := do
  checkScore "flow.call_edge_confidence" f.callEdgeConfidence
  f.customFrameworks.forM Framework.validate
  if f.entryPoints.any fun e => isBlankText e.function then
    throw (.violated .emptyEntryFunction)
  f.noise.validate

def Oracle.validate (o : Oracle) : Except Error Unit := do
  let hint := "Oracle timeouts are in milliseconds, at most 10 minutes"
  checkRange "oracle.init_timeout_ms" o.initTimeoutMs 1 600000 hint
  checkRange "oracle.query_timeout_ms" o.queryTimeoutMs 1 600000 hint
  if o.deadlineMs = some 0 then
    throw (.violated .zeroDeadline)
  checkScore "oracle.confidence" o.confidence

def Aggregation.validate (a : Aggregation) : Except Error Unit := do
  match a.packageDepth with
  | some depth =>
    checkRange "aggregation.package_depth" depth 1 64 "Use null to keep the whole directory"
  | none => pure ()
  if a.sourceRoots.any fun r => r = "" || r.toList.contains '/' then
    throw (.violated .nestedSourceRoot)

def validate (c : Config) : Except Error Unit := do
  c.cycles.validate
  c.flow.validate
  c.oracle.validate
  c.aggregation.validate

end Config

end ArchAtlas
