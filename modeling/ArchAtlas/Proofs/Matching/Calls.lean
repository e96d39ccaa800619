import ArchAtlas.Proofs.Matching.Lifecycle
import ArchAtlas.Proofs.Matching.Strategies

/-!
The calls of one run. The oracle is started, asked for the interfaces that have methods, in order and up
to the first failure, and released, however the run goes.

* `Asked` lists the ways in which asking can end, and `askAll_asked` shows that it ends in one of these;
* `Course` does so for a whole run, and `matchWithOracle_course` ties it to the calls in the log;
* `Course.fallback_eq_none_iff`: a run falls back just if a call goes unanswered or is not made.
-/

namespace ArchAtlas.Matching

/-- The oracle, called with `log` before, answers a call. -/
def Oracle.Answers (oracle : Oracle) (log : List OracleCall) (c : OracleCall) : Prop :=
  ∃ types, (oracle.respond log c).outcome = .answers types

/-- The oracle, called with `log` before, answers each of some calls in turn. -/
def Oracle.AnswersAll (oracle : Oracle) (log calls : List OracleCall) : Prop :=
  ∀ front c back, calls = front ++ c :: back → oracle.Answers (log ++ front) c

theorem Oracle.answersAll_nil (oracle : Oracle) (log : List OracleCall) : oracle.AnswersAll log [] := by
  intro front c back split
  simp at split

theorem Oracle.AnswersAll.cons {oracle : Oracle} {log calls : List OracleCall} {c : OracleCall}
    (first : oracle.Answers log c) (later : oracle.AnswersAll (log ++ [c]) calls) :
    oracle.AnswersAll log (c :: calls) := by
  intro front d back split
  rcases List.cons_eq_append_iff.mp split with ⟨rfl, same⟩ | ⟨front, rfl, same⟩
  · obtain ⟨rfl, -⟩ := List.cons.inj same
    simpa using first
  · have answered := later front d back same
    simpa using answered

/-- What is heard as an error has not been answered. -/
theorem Oracle.not_answers_of_heard {oracle : Oracle} {log : List OracleCall} {c : OracleCall}
    {operation : String} {error : OracleError}
    (heard : (oracle.respond log c).outcome.Heard operation (.error error)) :
    ¬ oracle.Answers log c := by
  rintro ⟨types, answers⟩
  rw [answers] at heard
  cases heard

/-- What is heard as an answer has been answered. -/
theorem Oracle.answers_of_heard {oracle : Oracle} {log : List OracleCall} {c : OracleCall}
    {operation : String} {types : List String}
    (heard : (oracle.respond log c).outcome.Heard operation (.ok types)) : oracle.Answers log c := by
  cases outcome : (oracle.respond log c).outcome with
  | answers found => exact ⟨found, outcome⟩
  | fails error =>
    rw [outcome] at heard
    cases heard
  | hangs =>
    rw [outcome] at heard
    obtain ⟨elapsed, same⟩ := heard
    cases same

/-! ## Asking -/

/-- The interfaces that a run asks for: those that have methods, in order. -/
def queried (interfaces : List TypeRef) : List TypeRef :=
  interfaces.filter fun i => !i.type.methods.isEmpty

theorem queried_cons_of_empty {i : TypeRef} (rest : List TypeRef) (empty : i.type.methods = []) :
    queried (i :: rest) = queried rest := by
  simp [queried, empty]

theorem queried_cons_of_methods {i : TypeRef} (rest : List TypeRef) (some : i.type.methods ≠ []) :
    queried (i :: rest) = i :: queried rest := by
  simp [queried, some]

/-- How asking for the interfaces that are `pending` can end: at one that the oracle does not answer for,
at one that no time is left for, or behind the last. With it come the reason to fall back, if there is
one, and the calls made. -/
inductive Asked (oracle : Oracle) (log : List OracleCall) (pending : List TypeRef) :
    Option Fallback → List OracleCall → Prop where
  | failed {before i after error} (split : pending = before ++ i :: after)
      (answered : oracle.AnswersAll log (before.map question))
      (heard : (oracle.respond (log ++ before.map question) (question i)).outcome.Heard
        (Session.operation i.type.name) (.error error)) :
      Asked oracle log pending (some (.queryFailed i.id error)) (before.map question ++ [question i])
  | late {before i after} (split : pending = before ++ i :: after)
      (answered : oracle.AnswersAll log (before.map question)) :
      Asked oracle log pending
        (some (.queryFailed i.id (.timeout (Session.operation i.type.name) 0))) (before.map question)
  | complete (answered : oracle.AnswersAll log (pending.map question)) :
      Asked oracle log pending none (pending.map question)

namespace Asked

variable {oracle : Oracle} {log called : List OracleCall} {pending : List TypeRef}
variable {fallback : Option Fallback}

/-- One interface more in front, which the oracle answers for. -/
theorem cons {i : TypeRef} (first : oracle.Answers log (question i))
    (later : Asked oracle (log ++ [question i]) pending fallback called) :
    Asked oracle log (i :: pending) fallback (question i :: called) := by
  cases later with
  | @failed before j after error split answered heard =>
    have heard' : (oracle.respond (log ++ (i :: before).map question) (question j)).outcome.Heard
        (Session.operation j.type.name) (.error error) := by simpa using heard
    exact .failed (congrArg (i :: ·) split) (.cons first answered) heard'
  | @late before j after split answered =>
    have parts : i :: pending = (i :: before) ++ j :: after := congrArg (i :: ·) split
    exact .late parts (.cons first answered)
  | complete answered => exact .complete (.cons first answered)

theorem isPrefix (h : Asked oracle log pending fallback called) : called <+: pending.map question := by
  cases h with
  | @failed before i after _ split => exact ⟨after.map question, by simp [split]⟩
  | @late before i after split => exact ⟨(i :: after).map question, by simp [split]⟩
  | complete => exact List.prefix_refl _

/-- Only the last call can have been left without an answer. -/
theorem stops (h : Asked oracle log pending fallback called) {front back : List OracleCall}
    {c : OracleCall} (split : called = front ++ c :: back)
    (silent : ¬ oracle.Answers (log ++ front) c) : back = [] := by
  cases h with
  | late _ answered => exact absurd (answered front c back split) silent
  | complete answered => exact absurd (answered front c back split) silent
  | @failed before i after _ _ answered =>
    rcases back.eq_nil_or_concat with rfl | ⟨rest, last, rfl⟩
    · rfl
    · -- Behind `c` stands the last call, so `c` is one of those that were answered.
      have ends : before.map question ++ [question i] = (front ++ c :: rest) ++ [last] := by
        rw [split]
        simp
      obtain ⟨same, -⟩ := List.append_inj' ends rfl
      exact absurd (answered front c rest same) silent

/-- There is no reason to fall back where every question is put and answered, and only there. -/
theorem fallback_eq_none_iff (h : Asked oracle log pending fallback called) :
    fallback = none ↔ called = pending.map question ∧ oracle.AnswersAll log called := by
  cases h with
  | complete answered => exact ⟨fun _ => ⟨rfl, answered⟩, fun _ => rfl⟩
  | late split =>
    refine ⟨nofun, ?_⟩
    rintro ⟨same, -⟩
    rw [split] at same
    simp at same
  | @failed before i after error split answered heard =>
    refine ⟨nofun, ?_⟩
    rintro ⟨-, all⟩
    have answers := all (before.map question) (question i) [] rfl
    exact absurd answers (Oracle.not_answers_of_heard heard)

end Asked

def fallbackOf? {α : Type} : Except (String × OracleError) α → Option Fallback
  | .error (interface, error) => some (.queryFailed interface error)
  | .ok _ => none

/-- A query of a session that is ready is refused for lack of time, or reaches the oracle, once. -/
theorem Session.query_ready (oracle : Oracle) {s : Session} (w : World) (name file : String)
    (line : UInt32) (ready : s.state = .ready) :
    (∃ w', s.query oracle name file line w = (.error (.timeout (operation name) 0), w') ∧
      w'.log = w.log) ∨
    ∃ result w', s.query oracle name file line w = (result, w') ∧
      (oracle.respond w.log (.query name file line)).outcome.Heard (operation name) result ∧
      w'.log = w.log ++ [.query name file line] := by
  have effect := s.query_effect oracle w name file line
  generalize s.query oracle name file line w = after at effect
  obtain ⟨result, w'⟩ := after
  cases effect with
  | refused refuses => simp [refusal?, ready] at refuses
  | late _ log => exact Or.inl ⟨w', rfl, log⟩
  | asked _ heard log => exact Or.inr ⟨result, w', rfl, heard, log⟩

/-- Asking ends in one of the ways in which it can end, and the oracle has been called accordingly. -/
theorem askAll_asked {oracle : Oracle} {session : Session} (ready : session.state = .ready)
    (byName : Table String Nat) (interfaces : List TypeRef) (k : Nat) (n : Named) (w : World) :
    ∃ called, (askAll oracle session byName (interfaces.zipIdx k) n w).2.log = w.log ++ called ∧
      Asked oracle w.log (queried interfaces)
        (fallbackOf? (askAll oracle session byName (interfaces.zipIdx k) n w).1) called := by
  induction interfaces generalizing k n w with
  | nil => exact ⟨[], (List.append_nil _).symm, .complete (oracle.answersAll_nil w.log)⟩
  | cons i rest ih =>
    by_cases none : i.type.methods = []
    · rw [queried_cons_of_empty rest none]
      simpa [askAll, none] using ih (k + 1) n w
    rw [queried_cons_of_methods rest none]
    have nonempty : i.type.methods.isEmpty = false := by simpa using none
    simp only [List.zipIdx_cons, askAll, nonempty, Bool.false_eq_true, if_false]
    obtain ⟨w', refused, same⟩ | ⟨result, w', answer, heard, log⟩ := Session.query_ready oracle w
      i.type.name i.type.location.file i.type.location.startLine ready
    · rw [refused]
      refine ⟨[], by simpa using same, .late (List.nil_append _).symm (oracle.answersAll_nil _)⟩
    · rw [answer]
      cases result with
      | error error =>
        refine ⟨[question i], log, .failed (List.nil_append _).symm (oracle.answersAll_nil _) ?_⟩
        simpa [question] using heard
      | ok types =>
        have answers : oracle.Answers w.log (question i) := Oracle.answers_of_heard heard
        obtain ⟨called, calls, later⟩ := ih (k + 1) (types.foldl (Named.add byName k) n) w'
        rw [log] at calls later
        exact ⟨question i :: called, by simpa [question] using calls, Asked.cons answers later⟩

/-! ## A whole run -/

/-- How a run can go: the oracle does not start, or it is asked. With it come the reason to fall back, if
there is one, and the calls between start and release. -/
inductive Course (oracle : Oracle) (p : Facts.Project) (log : List OracleCall) :
    Option Fallback → List OracleCall → Prop where
  | unstarted {error} (heard : (oracle.respond log (.start p.moduleRoot)).outcome.Heard "initialize"
      (.error error)) :
      Course oracle p log (some (.initFailed error)) []
  | started {fallback called} (answers : oracle.Answers log (.start p.moduleRoot))
      (asked : Asked oracle (log ++ [.start p.moduleRoot]) (queried (interfaces p)) fallback called) :
      Course oracle p log fallback called

/-- A start of a new session succeeds and makes it ready, or fails and releases the oracle. -/
theorem Session.start_new (oracle : Oracle) (initTimeout queryTimeout : Nat) (root : String)
    (deadline : Option Nat) (w : World) :
    (∃ s w', (Session.new initTimeout queryTimeout).start oracle root deadline w = (.ok (), s, w') ∧
      s.state = .ready ∧ oracle.Answers w.log (.start root) ∧ w'.log = w.log ++ [.start root]) ∨
    ∃ error s w', (Session.new initTimeout queryTimeout).start oracle root deadline w =
        (.error error, s, w') ∧
      (oracle.respond w.log (.start root)).outcome.Heard "initialize" (.error error) ∧
      w'.log = w.log ++ [.start root, .dispose] := by
  have effect := (Session.new initTimeout queryTimeout).start_effect oracle w root deadline
  generalize (Session.new initTimeout queryTimeout).start oracle root deadline w = after at effect
  obtain ⟨result, s, w'⟩ := after
  cases effect with
  | refused refuses => simp [refusal?, Session.new] at refuses
  | started _ answers ready log => exact Or.inl ⟨s, w', rfl, ready, ⟨_, answers⟩, log⟩
  | failed _ heard _ log => exact Or.inr ⟨_, s, w', rfl, heard, log⟩

/-- The calls of a run are a start, those that its course brings, and a release. -/
theorem matchWithOracle_course (policy : Policy) (oracle : Oracle) (p : Facts.Project) (w : World) :
    ∃ called, (matchWithOracle policy oracle p w).2.log =
        w.log ++ .start p.moduleRoot :: (called ++ [.dispose]) ∧
      Course oracle p w.log (matchWithOracle policy oracle p w).1.fallback called := by
  unfold matchWithOracle
  obtain ⟨s, w', start, ready, answers, log⟩ | ⟨error, s, w', start, heard, log⟩ :=
    Session.start_new oracle policy.initTimeout policy.queryTimeout p.moduleRoot policy.deadline w
  · simp only [start]
    obtain ⟨called, calls, asked⟩ :=
      askAll_asked ready (placesByName (structs p)) (interfaces p) 0 .empty w'
    rw [log] at calls asked
    generalize askAll oracle s (placesByName (structs p)) (interfaces p).zipIdx .empty w' = run
      at calls asked ⊢
    obtain ⟨result, w''⟩ := run
    have released : (s.dispose oracle w'').2.log =
        w.log ++ .start p.moduleRoot :: (called ++ [.dispose]) := by
      rw [Session.dispose_log_of_ready ready, calls]
      simp
    cases result with
    | error e => exact ⟨called, released, .started answers asked⟩
    | ok found => exact ⟨called, released, .started answers asked⟩
  · simp only [start]
    exact ⟨[], log, .unstarted heard⟩

namespace Course

variable {oracle : Oracle} {p : Facts.Project} {log called : List OracleCall}
variable {fallback : Option Fallback}

theorem isPrefix (h : Course oracle p log fallback called) : called <+: questions (interfaces p) := by
  cases h with
  | unstarted => exact List.nil_prefix
  | started _ asked => exact asked.isPrefix

theorem eq_nil_of_unstarted (h : Course oracle p log fallback called)
    (silent : ¬ oracle.Answers log (.start p.moduleRoot)) : called = [] := by
  cases h with
  | unstarted => rfl
  | started answers => exact absurd answers silent

theorem stops (h : Course oracle p log fallback called) {front back : List OracleCall}
    {c : OracleCall} (split : called = front ++ c :: back)
    (silent : ¬ oracle.Answers (log ++ .start p.moduleRoot :: front) c) : back = [] := by
  cases h with
  | unstarted => simp at split
  | started _ asked => exact asked.stops split (by simpa using silent)

/-- A run keeps what it was told just if the start and every question are answered. -/
theorem fallback_eq_none_iff (h : Course oracle p log fallback called) :
    fallback = none ↔ called = questions (interfaces p) ∧
      oracle.AnswersAll log (.start p.moduleRoot :: called) := by
  cases h with
  | unstarted heard =>
    refine ⟨nofun, ?_⟩
    rintro ⟨-, all⟩
    have answers := all [] _ _ rfl
    rw [List.append_nil] at answers
    exact absurd answers (Oracle.not_answers_of_heard heard)
  | started answers asked =>
    rw [asked.fallback_eq_none_iff]
    refine and_congr Iff.rfl ⟨.cons answers, ?_⟩
    intro all front c back split
    have answered := all (.start p.moduleRoot :: front) c back (congrArg (_ :: ·) split)
    simpa using answered

end Course

/-- The calls of a run. The oracle is started; if it answers, it is asked for interfaces that have
methods, from the first on and without a gap, and for none behind one that it gives no answer for; at
last it is released. The run keeps what it was told just if it has asked for all and was answered. -/
theorem matchWithOracle_calls (policy : Policy) (oracle : Oracle) (p : Facts.Project) (w : World) :
    let run := matchWithOracle policy oracle p w
    ∃ asked, run.2.log = w.log ++ .start p.moduleRoot :: (asked ++ [.dispose]) ∧
      asked <+: questions (interfaces p) ∧
      (¬ oracle.Answers w.log (.start p.moduleRoot) → asked = []) ∧
      (∀ front c back, asked = front ++ c :: back →
        ¬ oracle.Answers (w.log ++ .start p.moduleRoot :: front) c → back = []) ∧
      (run.1.fallback = none ↔ asked = questions (interfaces p) ∧
        oracle.AnswersAll w.log (.start p.moduleRoot :: asked)) := by
  intro run
  obtain ⟨asked, log, course⟩ := matchWithOracle_course policy oracle p w
  refine ⟨asked, log, course.isPrefix, course.eq_nil_of_unstarted, ?_, course.fallback_eq_none_iff⟩
  intro front c back split silent
  exact course.stops split silent

/-- Three interfaces, of which the first has no methods. -/
def threeInterfaces : Facts.Project :=
  let read : Facts.FuncDecl := ⟨"Read", none, [], [], true, default, none⟩
  let interface (name : String) (methods : List Facts.FuncDecl) : Facts.TypeDecl :=
    ⟨name, "io", [], methods, true, ⟨"io.go", 3, 9⟩⟩
  { Facts.Project.empty with
    moduleRoot := "/m"
    packages := [⟨"io", "io", "", [], [], [],
      [interface "Any" [], interface "Reader" [read], interface "File" [read]], []⟩] }

def stuckOracle : Oracle :=
  ⟨fun log _ => if log.isEmpty then ⟨0, 0, .answers []⟩ else ⟨0, 0, .hangs⟩⟩

/-- `Any` is not asked for, and `File` neither, as there is no answer for `Reader`. -/
theorem matchWithOracle_calls_threeInterfaces :
    let run := matchWithOracle ⟨5, 5, none, 1⟩ stuckOracle threeInterfaces .initial
    let reader := OracleCall.query "Reader" "io.go" 3
    ¬ stuckOracle.Answers [.start "/m"] reader ∧
      run.2.log = [.start "/m", reader, .dispose] ∧ run.1.fallback ≠ none ∧
      ∃ asked, run.2.log = .start "/m" :: (asked ++ [.dispose]) ∧
        asked <+: questions (interfaces threeInterfaces) ∧
        ∀ back, asked = reader :: back → back = [] := by
  intro run reader
  have silent : ¬ stuckOracle.Answers [.start "/m"] reader := by
    rintro ⟨types, answers⟩
    cases answers
  have log : run.2.log = [.start "/m", reader, .dispose] := by decide
  obtain ⟨asked, calls, part, -, stops, kept⟩ :=
    matchWithOracle_calls ⟨5, 5, none, 1⟩ stuckOracle threeInterfaces .initial
  refine ⟨silent, log, ?_, asked, calls, part, ?_⟩
  · intro whole
    have all := (kept.mp whole).1
    rw [all, log] at calls
    revert calls
    decide
  · intro back split
    exact stops [] reader back split silent

end ArchAtlas.Matching
