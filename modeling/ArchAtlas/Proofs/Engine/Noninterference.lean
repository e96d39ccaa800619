import ArchAtlas.Proofs.Document.Closed
import ArchAtlas.Proofs.Matching.Calls

namespace ArchAtlas

/-- The atlas of another run that finds the same. -/
def Atlas.stamped (a : Atlas) (stamp : Stamp) : Atlas :=
  { a with metadata := { a.metadata with
      generatedAt := stamp.generatedAt
      performance := { a.metadata.performance with totalMs := stamp.totalMs } } }

def Atlas.warned (a : Atlas) (warning : String) : Atlas :=
  { a with metadata := { a.metadata with warnings := [warning] } }

namespace Document

/-- The document with a change to the atlas that it carries along. -/
def mapAtlas (change : Atlas → Atlas) (d : Document) : Document :=
  { d with extensions := d.extensions.map fun e => ⟨e.atlas.map change⟩ }

/-- The document of another run that finds the same. -/
def stamped (d : Document) (stamp : Stamp) : Document :=
  { d.mapAtlas (·.stamped stamp) with timestamp := stamp.timestamp }

def warned (d : Document) (warning : String) : Document :=
  d.mapAtlas (·.warned warning)

theorem ofProject_timestamp (timestamp other : String) (p : Facts.Project)
    (implementations : List Matching.Implementation) :
    ofProject timestamp p implementations =
      (ofProject other p implementations).map fun d => { d with timestamp } := by
  simp only [ofProject, checkUnique, bind, Except.bind]
  cases firstDuplicate? [] (p.packages.flatMap ofPackage) <;> rfl

end Document

namespace Matching

/-- Something goes wrong with the oracle in a run: there is no answer to the start, no answer to a
question, or no time for all questions. -/
inductive Disturbed (policy : Policy) (oracle : Oracle) (p : Facts.Project) (w : World) : Prop where
  | unstarted (silent : ¬ oracle.Answers w.log (.start p.moduleRoot))
  | unanswered {front back : List OracleCall} {c : OracleCall}
      (log : (matchWithOracle policy oracle p w).2.log =
        w.log ++ .start p.moduleRoot :: (front ++ c :: back ++ [.dispose]))
      (silent : ¬ oracle.Answers (w.log ++ .start p.moduleRoot :: front) c)
  | unasked {asked : List OracleCall}
      (log : (matchWithOracle policy oracle p w).2.log =
        w.log ++ .start p.moduleRoot :: (asked ++ [.dispose]))
      (short : asked ≠ questions (interfaces p))

theorem calls_inj {before first second : List OracleCall} {root : String}
    (same : before ++ .start root :: (first ++ [.dispose]) =
      before ++ .start root :: (second ++ [.dispose])) : first = second := by
  simpa using same

theorem Disturbed.fallback_ne_none {policy : Policy} {oracle : Oracle} {p : Facts.Project} {w : World}
    (disturbed : Disturbed policy oracle p w) :
    (matchWithOracle policy oracle p w).1.fallback ≠ none := by
  obtain ⟨called, log, course⟩ := matchWithOracle_course policy oracle p w
  intro kept
  obtain ⟨whole, answered⟩ := course.fallback_eq_none_iff.mp kept
  cases disturbed with
  | unstarted silent =>
    have start := answered [] _ called rfl
    rw [List.append_nil] at start
    exact silent start
  | @unanswered front back c log' silent =>
    obtain rfl := calls_inj (log.symm.trans log')
    exact silent (answered (.start p.moduleRoot :: front) c back rfl)
  | unasked log' short =>
    obtain rfl := calls_inj (log.symm.trans log')
    exact short whole

/-- Where something went wrong, the run has fallen back for a reason that its course explains. -/
theorem matchWithOracle_of_disturbed {policy : Policy} {oracle : Oracle} {p : Facts.Project}
    {w : World} (disturbed : Disturbed policy oracle p w) :
    ∃ reason called, (matchWithOracle policy oracle p w).1 = fallBack p reason ∧
      Course oracle p w.log (some reason) called ∧
      (matchWithOracle policy oracle p w).2.log =
        w.log ++ .start p.moduleRoot :: (called ++ [.dispose]) := by
  obtain ⟨called, log, course⟩ := matchWithOracle_course policy oracle p w
  have fell := disturbed.fallback_ne_none
  obtain ⟨reason, w', run⟩ | ⟨found, w', run, -⟩ := matchWithOracle_cases policy oracle p w
  · rw [run] at course
    exact ⟨reason, called, by rw [run], course, log⟩
  · rw [run] at fell
    exact absurd rfl fell

end Matching

namespace Engine

variable (e : Engine) (p : Facts.Project)

theorem assemble_stamped (stamp other : Stamp) (m : Matching.Matched) :
    e.assemble stamp p m = (e.assemble other p m).stamped stamp := rfl

theorem assemble_fallBack (stamp : Stamp) (reason : Matching.Fallback) :
    e.assemble stamp p (Matching.fallBack p reason) =
      (e.assemble stamp p (Matching.matchHeuristic p)).warned reason.message := rfl

theorem documentOf_stamped (stamp other : Stamp) (m : Matching.Matched) :
    e.documentOf stamp p m = (e.documentOf other p m).map (·.stamped stamp) := by
  unfold documentOf
  rw [Document.ofProject_timestamp stamp.timestamp other.timestamp]
  cases Document.ofProject other.timestamp p m.implementations <;> rfl

theorem documentOf_fallBack (stamp : Stamp) (reason : Matching.Fallback) :
    e.documentOf stamp p (Matching.fallBack p reason) =
      (e.documentOf stamp p (Matching.matchHeuristic p)).map (·.warned reason.message) := by
  have same : (Matching.fallBack p reason).implementations =
      (Matching.matchHeuristic p).implementations := rfl
  unfold documentOf
  rw [same]
  cases Document.ofProject stamp.timestamp p (Matching.matchHeuristic p).implementations <;> rfl

/-- What was matched makes no difference to whether a document is made. -/
theorem documentOf_eq_error_iff (stamp : Stamp) (m : Matching.Matched) (error : EngineError) :
    e.documentOf stamp p m = .error error ↔
      ∃ duplicate, Document.firstDuplicate? [] (p.packages.flatMap Document.ofPackage) =
        some duplicate ∧ error = .duplicateId duplicate := by
  simp only [documentOf, ← Document.ofProject_eq_error_iff stamp.timestamp p m.implementations]
  cases Document.ofProject stamp.timestamp p m.implementations <;> simp [eq_comm]

/-- What a run gives that has fallen back, beside what a run by method names gives: the same, but for the
stamp and for a warning. -/
structure FellBack (stamp : Stamp) (warning : String) (atlas byNames : Atlas)
    (document byNamesDocument : Except EngineError Document) : Prop where
  layers : atlas.layers = byNames.layers
  unused : atlas.metadata.oracleUsed = false
  warnings : atlas.metadata.warnings = [warning]
  contents : ∀ d, document = .ok d → ∃ d', byNamesDocument = .ok d' ∧ d.entities = d'.entities ∧
    d.relations = d'.relations ∧ d.metrics = d'.metrics
  atlas_eq : atlas = (byNames.stamped stamp).warned warning
  document_eq : document = byNamesDocument.map fun d => (d.stamped stamp).warned warning

theorem fallBack_fellBack (stamp other : Stamp) (reason : Matching.Fallback) :
    FellBack stamp reason.message (e.assemble stamp p (Matching.fallBack p reason))
      (e.buildAtlas other p) (e.documentOf stamp p (Matching.fallBack p reason))
      (e.analyze other p) := by
  have whole : e.documentOf stamp p (Matching.fallBack p reason) =
      (e.analyze other p).map fun d => (d.stamped stamp).warned reason.message := by
    rw [documentOf_fallBack, documentOf_stamped e p stamp other, analyze]
    cases e.documentOf other p (Matching.matchHeuristic p) <;> rfl
  have atlas : e.assemble stamp p (Matching.fallBack p reason) =
      ((e.buildAtlas other p).stamped stamp).warned reason.message := by
    rw [assemble_fallBack, assemble_stamped e p stamp other, buildAtlas]
  refine ⟨rfl, rfl, rfl, ?_, atlas, whole⟩
  intro d made
  rw [whole] at made
  cases byNames : e.analyze other p with
  | error error =>
    rw [byNames] at made
    cases made
  | ok d' =>
    rw [byNames] at made
    cases made
    exact ⟨d', rfl, rfl, rfl, rfl⟩

/-- An oracle does not interfere with what it is not asked for. Whatever it does, the package, flow and
spawn layers and the frameworks are those of a run by method names, and a document is refused where that
run refuses it. Without an oracle all results are those of that run. Where the oracle fails or takes too
long they are too, but for the one warning that says why. -/
theorem oracle_does_not_interfere (stamp other : Stamp) (oracle : Option Matching.Oracle)
    (w : Matching.World) :
    let atlas := (e.buildAtlasWith stamp p oracle w).1
    let document := (e.analyzeWith stamp p oracle w).1
    let byNames := e.buildAtlas other p
    (atlas.layers.package = byNames.layers.package ∧ atlas.layers.flow = byNames.layers.flow ∧
      atlas.layers.spawn = byNames.layers.spawn ∧
      atlas.metadata.detectedFrameworks = byNames.metadata.detectedFrameworks) ∧
    (∀ error, document = .error error ↔ e.analyze other p = .error error) ∧
    (oracle = none →
      atlas = byNames.stamped stamp ∧ document = (e.analyze other p).map (·.stamped stamp)) ∧
    ∀ o, oracle = some o → Matching.Disturbed e.config.oracle.policy o p w →
      ∃ reason called,
        (e.matchWith p oracle w).2.log = w.log ++ .start p.moduleRoot :: (called ++ [.dispose]) ∧
        Matching.Course o p w.log (some reason) called ∧
        FellBack stamp reason.message atlas byNames document (e.analyze other p) := by
  intro atlas document byNames
  refine ⟨⟨rfl, rfl, rfl, rfl⟩, ?_, ?_, ?_⟩
  · intro error
    have here := e.documentOf_eq_error_iff p stamp (e.matchWith p oracle w).1 error
    exact here.trans (e.documentOf_eq_error_iff p other (Matching.matchHeuristic p) error).symm
  · rintro rfl
    exact ⟨e.assemble_stamped p stamp other (Matching.matchHeuristic p),
      e.documentOf_stamped p stamp other (Matching.matchHeuristic p)⟩
  · rintro o rfl disturbed
    obtain ⟨reason, called, fell, course, log⟩ := Matching.matchWithOracle_of_disturbed disturbed
    refine ⟨reason, called, log, course, ?_⟩
    have same := e.fallBack_fellBack p stamp other reason
    rw [← fell] at same
    exact same

/-- The oracle starts, and then does not come back from the question for `Shape`. -/
theorem oracle_does_not_interfere_twoShapes :
    let policy := plain.config.oracle.policy
    let stamp : Stamp := ⟨default, 7, "T"⟩
    Matching.Disturbed policy Matching.stuckOracle Matching.twoShapes .initial ∧
    ∃ reason, FellBack stamp reason
      (plain.buildAtlasWith stamp Matching.twoShapes (some Matching.stuckOracle) .initial).1
      (plain.buildAtlas ⟨default, 9, "U"⟩ Matching.twoShapes)
      (plain.analyzeWith stamp Matching.twoShapes (some Matching.stuckOracle) .initial).1
      (plain.analyze ⟨default, 9, "U"⟩ Matching.twoShapes) := by
  intro policy stamp
  have disturbed : Matching.Disturbed policy Matching.stuckOracle Matching.twoShapes .initial := by
    have log : (Matching.matchWithOracle policy Matching.stuckOracle Matching.twoShapes .initial).2.log =
        [] ++ .start "" :: ([] ++ .query "Shape" "" 0 :: [] ++ [.dispose]) := by decide
    refine .unanswered log ?_
    rintro ⟨types, answers⟩
    cases answers
  obtain ⟨reason, -, -, -, fell⟩ :=
    (oracle_does_not_interfere plain Matching.twoShapes stamp ⟨default, 9, "U"⟩
      (some Matching.stuckOracle) .initial).2.2.2 _ rfl disturbed
  exact ⟨disturbed, reason.message, fell⟩

end Engine

end ArchAtlas
