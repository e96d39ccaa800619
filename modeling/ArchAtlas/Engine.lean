import ArchAtlas.Aggregation
import ArchAtlas.Document.OfFacts
import ArchAtlas.Facts.Survey
import ArchAtlas.Flow.Build
import ArchAtlas.Json.Printer

/-!
The engine: from the facts of a project to its atlas and its document. No layer reads another, and an
oracle that fails never fails a run; the reason is kept as a warning.
-/

namespace ArchAtlas

/-- What a run takes from outside: the time and the duration that its results are marked with. -/
structure Stamp where
  generatedAt : Timestamp
  totalMs : UInt64
  /-- The time of a document, as text. -/
  timestamp : String
  deriving DecidableEq, Repr

/-- Why a run fails. -/
inductive EngineError where
  /-- A text is no JSON, or does not fit the model. -/
  | json
  | duplicateId (cause : Document.DuplicateId)
  | malformed (cause : Facts.SurveyError)
  deriving DecidableEq, Repr

namespace EngineError

def message : EngineError → String
  | json => "JSON error"
  | duplicateId cause => cause.message
  | malformed cause => cause.message

/-- Whether the facts broke a rule that their producer must keep. -/
def isInvariantViolation : EngineError → Bool
  | duplicateId _ => true
  | _ => false

end EngineError

/-- A validated configuration with its regular expressions read. -/
structure Engine where
  config : Config
  flow : Flow.Builder Pattern
  deriving DecidableEq, Repr

namespace Engine

def new (config : Config) : Except Config.Error Engine := do
  config.validate
  let flow ← Flow.Builder.new config.flow
  return ⟨config, flow⟩

/-- The atlas of a project whose interfaces have been matched. -/
def assemble (e : Engine) (stamp : Stamp) (p : Facts.Project) (matched : Matching.Matched) : Atlas :=
  let (frameworks, flow) := e.flow.detectAndBuild p
  { version := Atlas.currentVersion
    layers :=
      { package := PackageGraph.build e.config.cycles p
        capability := CapabilityGraph.build p matched.implementations
        spawn := SpawnTopology.build p
        flow }
    metadata :=
      { generatedAt := stamp.generatedAt
        detectedFrameworks := frameworks
        protocols := e.config.flow.protocols.filter fun protocols => !protocols.isEmpty
        oracleUsed := matched.oracleUsed
        warnings := (matched.fallback.map Matching.Fallback.message).toList
        completeness := .estimate p matched.oracleUsed
        performance := ⟨p.packages.length, stamp.totalMs⟩ } }

/-- Matching with an oracle where there is one. -/
def matchWith (e : Engine) (p : Facts.Project) (oracle : Option Matching.Oracle)
    (w : Matching.World) : Matching.Matched × Matching.World :=
  match oracle with
  | some oracle => Matching.matchWithOracle e.config.oracle.policy oracle p w
  | none => (Matching.matchHeuristic p, w)

/-- The atlas of a project, matched by method names. -/
def buildAtlas (e : Engine) (stamp : Stamp) (p : Facts.Project) : Atlas :=
  e.assemble stamp p (Matching.matchHeuristic p)

/-- The atlas of a project, matched with an oracle where there is one. -/
def buildAtlasWith (e : Engine) (stamp : Stamp) (p : Facts.Project)
    (oracle : Option Matching.Oracle) (w : Matching.World) : Atlas × Matching.World :=
  let (matched, w) := e.matchWith p oracle w
  (e.assemble stamp p matched, w)

/-- The document of a matched project at method level, with its atlas attached. -/
def documentOf (e : Engine) (stamp : Stamp) (p : Facts.Project) (matched : Matching.Matched) :
    Except EngineError Document :=
  match Document.ofProject stamp.timestamp p matched.implementations with
  | .error duplicate => .error (.duplicateId duplicate)
  | .ok document =>
    .ok { document with
      metrics := some (Metrics.compute document.entities document.relations .method)
      extensions := some ⟨some (e.assemble stamp p matched)⟩ }

/-- The document of a project, matched by method names. -/
def analyze (e : Engine) (stamp : Stamp) (p : Facts.Project) : Except EngineError Document :=
  e.documentOf stamp p (Matching.matchHeuristic p)

/-- The document of a project, matched with an oracle where there is one. -/
def analyzeWith (e : Engine) (stamp : Stamp) (p : Facts.Project) (oracle : Option Matching.Oracle)
    (w : Matching.World) : Except EngineError Document × Matching.World :=
  let (matched, w) := e.matchWith p oracle w
  (e.documentOf stamp p matched, w)

/-- Reads facts from JSON text, leaving out the records that do not fit. -/
def readFacts (text : String) : Except EngineError Facts.Survey :=
  match Json.parse? text with
  | none => .error .json
  | some value =>
    match Facts.Project.survey value with
    | .error cause => .error (.malformed cause)
    | .ok survey => .ok survey

/-- The document of the facts in JSON text, and what was left out. -/
def analyzeText (e : Engine) (stamp : Stamp) (text : String) :
    Except EngineError (Document × Facts.Survey) := do
  let survey ← readFacts text
  let document ← e.analyze stamp survey.project
  return (document, survey)

/-- The document at a level. -/
def aggregate (e : Engine) (d : Document) (level : Level) : Document :=
  Aggregation.aggregate e.config.aggregation d level

end Engine

/-- Reads a document from JSON text. -/
def Document.ofText (text : String) : Except EngineError Document :=
  match Json.Lexed.parse? text with
  | none => .error .json
  | some lexed =>
    match (Document.codec Json.Lexed).decode lexed with
    | .error _ => .error .json
    | .ok document => .ok document

/-- A document as JSON text over several lines. -/
def Document.toText (d : Document) : String :=
  ((Document.codec Json).encode d).pretty

/-- An atlas as JSON text over several lines. -/
def Atlas.toText (a : Atlas) : String :=
  ((Atlas.codec Json).encode a).pretty

end ArchAtlas
