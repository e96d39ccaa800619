import ArchAtlas.Proofs.Matching.Session
import Mathlib.Data.List.Induction

/-!
The life of an oracle within one session. Whatever calls are made on the session, in whatever order and
with whatever time between them, the oracle is started at most once, asked only once that has succeeded,
released at most once, and left alone from then on.

* `Effect` lists all that one call can do, and `perform_effect` shows that it does one of these;
* `Reached` ties the calls that have reached the oracle to the state of the session;
* `Reached.next`: one call keeps the two tied; `run_sound`: so does a run, and the responses tell of it;
* `Lifecycle` and `Conduct` gather what holds after a run, and of a further call.
-/

namespace ArchAtlas.Matching

inductive Request where
  | start (root : String) (deadline : Option Nat)
  | query (name file : String) (line : UInt32)
  | dispose
  deriving DecidableEq, Repr

/-- What a call on a session comes back with. -/
inductive Response where
  | started (result : Except OracleError Unit)
  | answered (result : Except OracleError (List String))
  | released

namespace Session

def perform (oracle : Oracle) (s : Session) (w : World) : Request → Response × Session × World
  | .start root deadline =>
    let (result, s, w) := s.start oracle root deadline w
    (.started result, s, w)
  | .query name file line =>
    let (result, w) := s.query oracle name file line w
    (.answered result, s, w)
  | .dispose =>
    let (s, w) := s.dispose oracle w
    (.released, s, w)

end Session

/-- A call on a session, and how long it is waited before it. -/
structure Turn where
  wait : Nat
  request : Request
  deriving DecidableEq, Repr

/-- A session in use: the calls made so far have left it and its oracle in this state, and have come
back with these responses. -/
@[ext]
structure Conversation where
  session : Session
  world : World
  responses : List Response

namespace Conversation

def next (oracle : Oracle) (c : Conversation) (t : Turn) : Conversation :=
  let (response, session, world) := c.session.perform oracle (c.world.later t.wait) t.request
  ⟨session, world, c.responses ++ [response]⟩

def run (oracle : Oracle) (initTimeout queryTimeout : Nat) (w : World) (turns : List Turn) :
    Conversation :=
  turns.foldl (next oracle) ⟨.new initTimeout queryTimeout, w, []⟩

end Conversation

/-! ## What one call can do -/

/-- The response to a call that the session does not let through, by its state. -/
def refusal? : SessionState → Request → Option Response
  | .uninitialized, .query .. => some (.answered (.error .notInitialized))
  | .disposed, .query .. => some (.answered (.error .disposed))
  | .disposed, .start .. => some (.started (.error .disposed))
  | .ready, .start .. => some (.started (.ok ()))
  | .disposed, .dispose => some .released
  | _, _ => none

/-- What the caller hears of a call: the types or the error that it ends with, or that it took too long
if it hangs. -/
def Outcome.Heard (operation : String) : Outcome → Except OracleError (List String) → Prop
  | .answers types, result => result = .ok types
  | .fails error, result => result = .error error
  | .hangs, result => ∃ elapsed, result = .error (.timeout operation elapsed)

/-- All that a call on a session can do, with the response, the session and the world that it leaves. -/
inductive Effect (oracle : Oracle) (s : Session) (w : World) :
    Request → Response → Session → World → Prop where
  | refused {r response} (refuses : refusal? s.state r = some response) :
      Effect oracle s w r response s w
  | started {root deadline types s' w'} (fresh : s.state = .uninitialized)
      (answers : (oracle.respond w.log (.start root)).outcome = .answers types)
      (ready : s'.state = .ready) (log : w'.log = w.log ++ [.start root]) :
      Effect oracle s w (.start root deadline) (.started (.ok ())) s' w'
  | failed {root deadline error s' w'} (fresh : s.state = .uninitialized)
      (heard : (oracle.respond w.log (.start root)).outcome.Heard "initialize" (.error error))
      (disposed : s'.state = .disposed) (log : w'.log = w.log ++ [.start root, .dispose]) :
      Effect oracle s w (.start root deadline) (.started (.error error)) s' w'
  | late {name file line w'} (ready : s.state = .ready) (log : w'.log = w.log) :
      Effect oracle s w (.query name file line)
        (.answered (.error (.timeout (Session.operation name) 0))) s w'
  | asked {name file line result w'} (ready : s.state = .ready)
      (heard : (oracle.respond w.log (.query name file line)).outcome.Heard
        (Session.operation name) result)
      (log : w'.log = w.log ++ [.query name file line]) :
      Effect oracle s w (.query name file line) (.answered result) s w'
  | released {s' w'} (live : s.state ≠ .disposed) (disposed : s'.state = .disposed)
      (log : w'.log = w.log ++ [.dispose]) :
      Effect oracle s w .dispose .released s' w'

/-- A call that comes back is heard as it ended, and one that does not as a time-out. -/
theorem Oracle.call_heard {oracle : Oracle} {budget : Nat} {c : OracleCall} {w w' : World}
    {result : Option (Except OracleError (List String))}
    (called : oracle.call budget c w = (result, w')) (operation : String) (elapsed : Nat) :
    (oracle.respond w.log c).outcome.Heard operation
      (result.getD (.error (.timeout operation elapsed))) := by
  unfold Oracle.call at called
  cases outcome : (oracle.respond w.log c).outcome with
  | answers types =>
    simp only [outcome, Prod.mk.injEq] at called
    rw [← called.1]
    rfl
  | fails error =>
    simp only [outcome, Prod.mk.injEq] at called
    rw [← called.1]
    rfl
  | hangs =>
    simp only [outcome, Prod.mk.injEq] at called
    rw [← called.1]
    exact ⟨elapsed, rfl⟩

namespace Session

theorem dispose_of_live (oracle : Oracle) {s : Session} (w : World) (live : s.state ≠ .disposed) :
    (s.dispose oracle w).1.state = .disposed ∧
      (s.dispose oracle w).2.log = w.log ++ [.dispose] := by
  unfold dispose
  split
  · exact absurd ‹_› live
  · exact ⟨rfl, oracle.call_log _ _ _⟩

theorem start_effect (oracle : Oracle) (s : Session) (w : World) (root : String)
    (deadline : Option Nat) :
    let after := s.start oracle root deadline w
    Effect oracle s w (.start root deadline) (.started after.1) after.2.1 after.2.2 := by
  unfold start
  cases state : s.state with
  | ready => exact .refused (by rw [state]; rfl)
  | disposed => exact .refused (by rw [state]; rfl)
  | uninitialized =>
    dsimp only
    generalize opened : Session.mk .uninitialized s.initTimeout s.queryTimeout _ = fresh
    have live : fresh.state ≠ .disposed := by simp [← opened]
    have before : (fresh.budget s.initTimeout w.tick).2.log = w.log := budget_log _ _ _
    generalize fresh.budget s.initTimeout w.tick = allowed at before ⊢
    obtain ⟨budget, w₁⟩ := allowed
    dsimp only at before ⊢
    generalize called : oracle.call budget (.start root) w₁ = after
    obtain ⟨result, w'⟩ := after
    have log : w'.log = w.log ++ [.start root] := by
      rw [← before, ← oracle.call_log budget, called]
    have heard := Oracle.call_heard called "initialize" (w'.tick.clock - w.tick.clock)
    rw [before] at heard
    have closing : ∀ w'' : World, w''.log = w'.log → (fresh.dispose oracle w'').1.state = .disposed ∧
        (fresh.dispose oracle w'').2.log = w.log ++ [.start root, .dispose] := by
      intro w'' same
      obtain ⟨disposed, released⟩ := dispose_of_live oracle w'' live
      refine ⟨disposed, ?_⟩
      rw [released, same, log, List.append_assoc]
      rfl
    match result with
    | some (.ok types) => exact .started state (before ▸ Oracle.call_answers called) rfl log
    | some (.error error) =>
      obtain ⟨disposed, calls⟩ := closing w' rfl
      exact .failed state heard disposed calls
    | none =>
      obtain ⟨disposed, calls⟩ := closing w'.tick rfl
      exact .failed state heard disposed calls

theorem query_effect (oracle : Oracle) (s : Session) (w : World) (name file : String)
    (line : UInt32) :
    let after := s.query oracle name file line w
    Effect oracle s w (.query name file line) (.answered after.1) s after.2 := by
  unfold query
  cases state : s.state with
  | uninitialized => exact .refused (by rw [state]; rfl)
  | disposed => exact .refused (by rw [state]; rfl)
  | ready =>
    have before : (s.budget s.queryTimeout w.tick).2.log = w.log := budget_log _ _ _
    dsimp only
    generalize s.budget s.queryTimeout w.tick = allowed at before ⊢
    obtain ⟨budget, w₁⟩ := allowed
    dsimp only at before ⊢
    split
    · exact .late state before
    · generalize called : oracle.call budget (.query name file line) w₁ = after
      obtain ⟨result, w'⟩ := after
      have log : w'.log = w.log ++ [.query name file line] := by
        rw [← before, ← oracle.call_log budget, called]
      have heard := Oracle.call_heard called (operation name) (w'.tick.clock - w.tick.clock)
      rw [before] at heard
      match result with
      | some result => exact .asked state heard log
      | none => exact .asked state heard log

theorem dispose_effect (oracle : Oracle) (s : Session) (w : World) :
    Effect oracle s w .dispose .released (s.dispose oracle w).1 (s.dispose oracle w).2 := by
  by_cases disposed : s.state = .disposed
  · have same : s.dispose oracle w = (s, w) := by simp [dispose, disposed]
    rw [same]
    exact .refused (by rw [disposed]; rfl)
  · obtain ⟨after, log⟩ := dispose_of_live oracle w disposed
    exact .released disposed after log

/-- A call does one of the things that a call can do. -/
theorem perform_effect (oracle : Oracle) (s : Session) (w : World) (r : Request) :
    let after := s.perform oracle w r
    Effect oracle s w r after.1 after.2.1 after.2.2 := by
  cases r with
  | start root deadline => exact start_effect oracle s w root deadline
  | query name file line => exact query_effect oracle s w name file line
  | dispose => exact dispose_effect oracle s w

end Session

/-! ## What a run of calls leaves behind -/

def OracleCall.isStart : OracleCall → Bool
  | .start _ => true
  | _ => false

def OracleCall.isQuery : OracleCall → Bool
  | .query .. => true
  | _ => false

/-- The calls that a session has let through, by its state; the oracle had been called as in `before`
when the session began. -/
inductive Reached (oracle : Oracle) (before : List OracleCall) :
    SessionState → List OracleCall → Prop where
  | idle : Reached oracle before .uninitialized []
  | ready {root types queries}
      (answers : (oracle.respond before (.start root)).outcome = .answers types)
      (asked : ∀ c ∈ queries, c.isQuery) :
      Reached oracle before .ready (.start root :: queries)
  | failed (root : String) : Reached oracle before .disposed [.start root, .dispose]
  | closed {root types queries}
      (answers : (oracle.respond before (.start root)).outcome = .answers types)
      (asked : ∀ c ∈ queries, c.isQuery) :
      Reached oracle before .disposed (.start root :: (queries ++ [.dispose]))
  | unused : Reached oracle before .disposed [.dispose]

namespace Reached

variable {oracle : Oracle} {before called : List OracleCall} {state : SessionState}

/-- One call keeps the calls that have reached the oracle tied to the state of the session. -/
theorem next {s s' : Session} {w w' : World} {r : Request} {response : Response}
    (reached : Reached oracle before s.state called) (log : w.log = before ++ called)
    (effect : Effect oracle s w r response s' w') :
    ∃ new, w'.log = w.log ++ new ∧ Reached oracle before s'.state (called ++ new) := by
  cases effect with
  | refused => exact ⟨[], by simp, by simpa using reached⟩
  | late _ log' => exact ⟨[], by simpa using log', by simpa using reached⟩
  | started fresh answers ready log' =>
    rw [fresh] at reached
    cases reached
    rw [log, List.append_nil] at answers
    exact ⟨_, log', ready ▸ .ready answers (by simp)⟩
  | failed fresh _ disposed log' =>
    rw [fresh] at reached
    cases reached
    exact ⟨_, log', disposed ▸ .failed _⟩
  | asked ready _ log' =>
    rw [ready] at reached ⊢
    cases reached with
    | ready answers asked =>
      refine ⟨_, log', .ready answers ?_⟩
      intro c mem
      rcases List.mem_append.mp mem with old | last
      · exact asked c old
      · obtain rfl := List.mem_singleton.mp last
        rfl
  | released live disposed log' =>
    refine ⟨_, log', ?_⟩
    rw [disposed]
    generalize s.state = state at reached live
    cases reached with
    | idle => exact .unused
    | ready answers asked => exact .closed answers asked
    | failed | closed | unused => exact absurd rfl live

theorem countP_isStart_le (reached : Reached oracle before state called) :
    called.countP OracleCall.isStart ≤ 1 := by
  have none : ∀ {queries : List OracleCall}, (∀ c ∈ queries, c.isQuery) →
      queries.countP OracleCall.isStart = 0 := by
    intro queries asked
    rw [List.countP_eq_zero]
    intro c mem start
    have query := asked c mem
    cases c <;> simp [OracleCall.isStart, OracleCall.isQuery] at start query
  cases reached with
  | idle => simp
  | ready _ asked => simp [List.countP_cons, OracleCall.isStart, none asked]
  | failed => simp [List.countP_cons, OracleCall.isStart]
  | closed _ asked => simp [List.countP_cons, OracleCall.isStart, none asked]
  | unused => simp [OracleCall.isStart]

/-- The oracle has been released, once, if the session is disposed. -/
theorem count_dispose (reached : Reached oracle before state called) :
    called.count .dispose = if state = .disposed then 1 else 0 := by
  have none : ∀ {queries : List OracleCall}, (∀ c ∈ queries, c.isQuery) →
      queries.count .dispose = 0 := by
    intro queries asked
    rw [List.count_eq_zero]
    intro mem
    exact absurd (asked _ mem) (by simp [OracleCall.isQuery])
  cases reached with
  | idle => simp
  | ready _ asked => simp [none asked]
  | failed => simp
  | closed _ asked => simp [none asked]
  | unused => simp

theorem mem_dispose_iff (reached : Reached oracle before state called) :
    .dispose ∈ called ↔ state = .disposed := by
  rw [← List.count_pos_iff, reached.count_dispose]
  split <;> simp_all

/-- The release is the last call. -/
theorem dispose_last (reached : Reached oracle before state called) (front back : List OracleCall)
    (split : called = front ++ .dispose :: back) : back = [] := by
  have disposed : state = .disposed := reached.mem_dispose_iff.mp (by simp [split])
  obtain ⟨start, last⟩ : ∃ start, called = start ++ [.dispose] := by
    cases reached with
    | idle | ready => cases disposed
    | failed root => exact ⟨[.start root], rfl⟩
    | @closed root _ queries => exact ⟨.start root :: queries, rfl⟩
    | unused => exact ⟨[], rfl⟩
  rcases back.eq_nil_or_concat with rfl | ⟨rest, c, rfl⟩
  · rfl
  · -- A second release would stand at the end.
    have ends : (front ++ .dispose :: rest) ++ [c] = start ++ [.dispose] := by
      rw [← last, split]
      simp
    obtain ⟨-, same⟩ := List.append_inj' ends rfl
    have count := reached.count_dispose
    rw [if_pos disposed, split, List.singleton_inj.mp same] at count
    simp only [List.concat_eq_append, List.count_append, List.count_cons_self] at count
    omega

/-- What is asked is asked after a start that has succeeded. -/
theorem answers_of_query (reached : Reached oracle before state called) {c : OracleCall}
    (mem : c ∈ called) (query : c.isQuery) :
    ∃ root rest types, called = .start root :: rest ∧
      (oracle.respond before (.start root)).outcome = .answers types := by
  cases reached with
  | idle => cases mem
  | ready answers => exact ⟨_, _, _, rfl, answers⟩
  | closed answers => exact ⟨_, _, _, rfl, answers⟩
  | failed =>
    simp only [List.mem_cons, List.not_mem_nil, or_false] at mem
    rcases mem with rfl | rfl <;> cases query
  | unused =>
    obtain rfl := List.mem_singleton.mp mem
    cases query

theorem language (reached : Reached oracle before state called) :
    called = [.dispose] ∨ ∃ root queries, (∀ c ∈ queries, c.isQuery) ∧
      called <+: .start root :: (queries ++ [.dispose]) := by
  cases reached with
  | idle => exact Or.inr ⟨"", [], by simp, List.nil_prefix⟩
  | @ready root _ queries _ asked =>
    exact Or.inr ⟨root, queries, asked, ⟨[.dispose], by simp⟩⟩
  | failed root => exact Or.inr ⟨root, [], by simp, List.prefix_refl _⟩
  | @closed root _ queries _ asked => exact Or.inr ⟨root, queries, asked, List.prefix_refl _⟩
  | unused => exact Or.inl rfl

end Reached

namespace Effect

variable {oracle : Oracle} {s s' : Session} {w w' : World} {r : Request} {response : Response}

theorem ready_of_ok (effect : Effect oracle s w r response s' w')
    (ok : response = .started (.ok ())) : s'.state = .ready := by
  cases effect with
  | refused refuses =>
    subst ok
    cases state : s.state <;> cases r <;> simp [refusal?, state] at refuses ⊢
  | started _ _ ready => exact ready
  | failed | late | asked | released => cases ok

theorem ready_or_ok (effect : Effect oracle s w r response s' w') (ready : s'.state = .ready) :
    s.state = .ready ∨ response = .started (.ok ()) := by
  cases effect with
  | refused | late | asked => exact Or.inl ready
  | started => exact Or.inr rfl
  | failed _ _ disposed => cases disposed.symm.trans ready
  | released _ disposed => cases disposed.symm.trans ready

theorem uninitialized_of (effect : Effect oracle s w r response s' w')
    (fresh : s'.state = .uninitialized) : s.state = .uninitialized := by
  cases effect with
  | refused | late | asked => exact fresh
  | started _ _ ready => cases ready.symm.trans fresh
  | failed _ _ disposed => cases disposed.symm.trans fresh
  | released _ disposed => cases disposed.symm.trans fresh

theorem disposed_of (effect : Effect oracle s w r response s' w') (disposed : s.state = .disposed) :
    s'.state = .disposed := by
  cases effect with
  | refused | late | asked => exact disposed
  | started fresh => cases fresh.symm.trans disposed
  | failed _ _ after => exact after
  | released _ after => exact after

/-- A start that fails has reached the oracle, unless the session was disposed before. -/
theorem disposed_of_error {root : String} {deadline : Option Nat} {error : OracleError}
    (effect : Effect oracle s w (.start root deadline) (.started (.error error)) s' w') :
    s'.state = .disposed ∧
      (s.state ≠ .disposed → w'.log = w.log ++ [.start root, .dispose]) := by
  cases effect with
  | refused refuses =>
    have disposed : s.state = .disposed := by
      cases state : s.state <;> simp [refusal?, state] at refuses ⊢
    exact ⟨disposed, fun live => absurd disposed live⟩
  | failed _ _ disposed log => exact ⟨disposed, fun _ => log⟩

theorem session_of_query {name file : String} {line : UInt32}
    (effect : Effect oracle s w (.query name file line) response s' w') : s' = s := by
  cases effect <;> rfl

/-- What the session itself refuses changes nothing. -/
theorem eq_of_refusal {expected : Response} (effect : Effect oracle s w r response s' w')
    (refuses : refusal? s.state r = some expected) : response = expected ∧ s' = s ∧ w' = w := by
  cases effect with
  | refused refuses' => exact ⟨Option.some.inj (refuses'.symm.trans refuses), rfl, rfl⟩
  | started fresh => simp [refusal?, fresh] at refuses
  | failed fresh => simp [refusal?, fresh] at refuses
  | late ready => simp [refusal?, ready] at refuses
  | asked ready => simp [refusal?, ready] at refuses
  | released live =>
    cases state : s.state <;> simp [refusal?, state] at refuses
    exact absurd state live

/-- A call that comes back with an error of the session's own changes nothing, unless the error is the
oracle's. -/
theorem eq_of_rejection {error : OracleError} (effect : Effect oracle s w r response s' w')
    (own : error = .notInitialized ∨ error = .disposed)
    (honest : ∀ c, (oracle.respond w.log c).outcome ≠ .fails error)
    (rejects : response = .started (.error error) ∨ response = .answered (.error error)) :
    s' = s ∧ w' = w := by
  -- What is heard of a call that reaches the oracle is its own error, or a time-out.
  have unheard : ∀ {c operation},
      ¬ (oracle.respond w.log c).outcome.Heard operation (.error error) := by
    intro c operation heard
    cases outcome : (oracle.respond w.log c).outcome with
    | answers types => simp [Outcome.Heard, outcome] at heard
    | fails e =>
      have same : error = e := by simpa [Outcome.Heard, outcome] using heard
      exact honest c (same ▸ outcome)
    | hangs =>
      obtain ⟨elapsed, same⟩ : ∃ elapsed, error = .timeout operation elapsed := by
        simpa [Outcome.Heard, outcome] using heard
      rcases own with rfl | rfl <;> cases same
  cases effect with
  | refused => exact ⟨rfl, rfl⟩
  | late =>
    rcases rejects with h | h <;> cases h
    rcases own with h | h <;> cases h
  | started | released => rcases rejects with h | h <;> cases h
  | failed _ heard =>
    rcases rejects with h | h <;> cases h
    exact absurd heard unheard
  | asked _ heard =>
    rcases rejects with h | h <;> cases h
    exact absurd heard unheard

end Effect

/-- What the state of a session, the log of its oracle and the responses so far have in common. -/
structure Sound (oracle : Oracle) (before called : List OracleCall) (c : Conversation) : Prop where
  log : c.world.log = before ++ called
  reached : Reached oracle before c.session.state called
  begun : .started (.ok ()) ∈ c.responses → c.session.state ≠ .uninitialized
  succeeded : c.session.state = .ready → .started (.ok ()) ∈ c.responses

theorem Conversation.next_effect (oracle : Oracle) (c : Conversation) (t : Turn) :
    ∃ response, (c.next oracle t).responses = c.responses ++ [response] ∧
      Effect oracle c.session (c.world.later t.wait) t.request response
        (c.next oracle t).session (c.next oracle t).world :=
  ⟨_, rfl, c.session.perform_effect oracle (c.world.later t.wait) t.request⟩

theorem Sound.next {oracle : Oracle} {before called : List OracleCall} {c : Conversation}
    (sound : Sound oracle before called c) (t : Turn) :
    ∃ new, Sound oracle before (called ++ new) (c.next oracle t) := by
  obtain ⟨response, responses, effect⟩ := c.next_effect oracle t
  have before' : (c.world.later t.wait).log = before ++ called := sound.log
  obtain ⟨new, log, reached⟩ := sound.reached.next before' effect
  refine ⟨new, by rw [log, before', List.append_assoc], reached, ?_, ?_⟩
  · rw [responses]
    intro mem fresh
    rcases List.mem_append.mp mem with old | last
    · exact sound.begun old (effect.uninitialized_of fresh)
    · cases (effect.ready_of_ok (List.mem_singleton.mp last).symm).symm.trans fresh
  · intro ready
    rw [responses, List.mem_append, List.mem_singleton]
    exact (effect.ready_or_ok ready).imp sound.succeeded Eq.symm

theorem run_sound (oracle : Oracle) (initTimeout queryTimeout : Nat) (w : World)
    (turns : List Turn) :
    ∃ called, Sound oracle w.log called
      (Conversation.run oracle initTimeout queryTimeout w turns) := by
  induction turns using List.reverseRecOn with
  | nil => exact ⟨[], (List.append_nil _).symm, .idle, nofun, nofun⟩
  | append_singleton turns t ih =>
    obtain ⟨called, sound⟩ := ih
    obtain ⟨new, sound⟩ := sound.next t
    rw [Conversation.run, List.foldl_append]
    exact ⟨called ++ new, sound⟩

/-! ## The life of an oracle -/

/-- What holds after a run of calls on a session. The calls that have reached the oracle are a start,
queries and a release, cut off anywhere, or a release alone. So it is started at most once, asked only
after a start that it has answered and before a release, released at most once, and not called after
that. The session is ready if a start has succeeded and the oracle has not been released. -/
structure Lifecycle (oracle : Oracle) (before called : List OracleCall) (c : Conversation) : Prop where
  language : called = [.dispose] ∨ ∃ root queries, (∀ q ∈ queries, q.isQuery) ∧
    called <+: .start root :: (queries ++ [.dispose])
  started_once : called.countP OracleCall.isStart ≤ 1
  asked_between : ∀ front q back, called = front ++ q :: back → q.isQuery →
    .dispose ∉ front ∧ ∃ root rest types, front = .start root :: rest ∧
      (oracle.respond before (.start root)).outcome = .answers types
  released_once : called.count .dispose ≤ 1
  released_last : ∀ front back, called = front ++ .dispose :: back → back = []
  ready_iff : c.session.state = .ready ↔ .started (.ok ()) ∈ c.responses ∧ .dispose ∉ called

/-- What a further call on a session may do. Once disposed, the session stays so; a start that fails
leaves it disposed and the oracle released, once; a query leaves it as it is; and what the session
refuses, or rejects with an error of its own, changes nothing at all. -/
structure Conduct (oracle : Oracle) (before called : List OracleCall) (c : Conversation) (t : Turn) :
    Prop where
  absorbing : c.session.state = .disposed → (c.next oracle t).session.state = .disposed
  failed : ∀ root deadline error, t.request = .start root deadline →
    (c.next oracle t).responses = c.responses ++ [.started (.error error)] →
    (c.next oracle t).session.state = .disposed ∧
      (c.session.state ≠ .disposed →
        (c.next oracle t).world.log = c.world.log ++ [.start root, .dispose]) ∧
      ∃ new, (c.next oracle t).world.log = before ++ (called ++ new) ∧
        (called ++ new).count .dispose = 1
  query : ∀ name file line, t.request = .query name file line → (c.next oracle t).session = c.session
  refused : ∀ response, refusal? c.session.state t.request = some response →
    c.next oracle t = ⟨c.session, c.world.later t.wait, c.responses ++ [response]⟩
  rejected : ∀ error, error = .notInitialized ∨ error = .disposed →
    (∀ q, (oracle.respond c.world.log q).outcome ≠ .fails error) →
    (c.next oracle t).responses = c.responses ++ [.started (.error error)] ∨
      (c.next oracle t).responses = c.responses ++ [.answered (.error error)] →
    (c.next oracle t).session = c.session ∧ (c.next oracle t).world = c.world.later t.wait

namespace Sound

variable {oracle : Oracle} {before called : List OracleCall} {c : Conversation}

theorem lifecycle (sound : Sound oracle before called c) : Lifecycle oracle before called c where
  language := sound.reached.language
  started_once := sound.reached.countP_isStart_le
  asked_between := by
    intro front q back split query
    constructor
    · intro mem
      obtain ⟨first, rest, rfl⟩ := List.append_of_mem mem
      have none := sound.reached.dispose_last first (rest ++ q :: back) (by simp [split])
      simp at none
    · obtain ⟨root, rest, types, first, answers⟩ :=
        sound.reached.answers_of_query (c := q) (by simp [split]) query
      rw [first] at split
      rcases List.cons_eq_append_iff.mp split with ⟨rfl, same⟩ | ⟨front, rfl, -⟩
      · cases (List.cons.inj same).1
        cases query
      · exact ⟨root, front, types, rfl, answers⟩
  released_once := by
    rw [sound.reached.count_dispose]
    split <;> simp
  released_last := sound.reached.dispose_last
  ready_iff := by
    rw [sound.reached.mem_dispose_iff]
    constructor
    · intro ready
      exact ⟨sound.succeeded ready, by simp [ready]⟩
    · rintro ⟨ok, live⟩
      have begun := sound.begun ok
      cases state : c.session.state <;> simp_all

theorem conduct (sound : Sound oracle before called c) (t : Turn) :
    Conduct oracle before called c t := by
  obtain ⟨response, responses, effect⟩ := c.next_effect oracle t
  have last : ∀ {r}, (c.next oracle t).responses = c.responses ++ [r] → response = r := by
    intro r same
    rw [responses] at same
    simpa using same
  refine ⟨effect.disposed_of, ?_, ?_, ?_, ?_⟩
  · intro root deadline error request result
    rw [request, last result] at effect
    obtain ⟨disposed, log⟩ := effect.disposed_of_error
    obtain ⟨new, after⟩ := sound.next t
    refine ⟨disposed, log, new, after.log, ?_⟩
    rw [after.reached.count_dispose, if_pos disposed]
  · intro name file line request
    rw [request] at effect
    exact effect.session_of_query
  · intro expected refuses
    obtain ⟨same, session, world⟩ := effect.eq_of_refusal refuses
    exact Conversation.ext session world (by rw [responses, same])
  · intro error own honest rejects
    exact effect.eq_of_rejection own honest (rejects.imp last last)

end Sound

/-- Whatever is called on a session, and however its oracle behaves, the oracle is led through its life
in order, and any further call keeps to that order. -/
theorem run_lifecycle (oracle : Oracle) (initTimeout queryTimeout : Nat) (w : World)
    (turns : List Turn) :
    let c := Conversation.run oracle initTimeout queryTimeout w turns
    ∃ called, c.world.log = w.log ++ called ∧ Lifecycle oracle w.log called c ∧
      ∀ t, Conduct oracle w.log called c t := by
  intro c
  obtain ⟨called, sound⟩ := run_sound oracle initTimeout queryTimeout w turns
  exact ⟨called, sound.log, sound.lifecycle, sound.conduct⟩

def promptOracle : Oracle := ⟨fun _ _ => ⟨0, 0, .answers ["T"]⟩⟩

/-- A session that is asked too early, started twice, asked, released and asked again. -/
def fullLife : List Turn :=
  [.query "I" "i.go" 1, .start "/r" none, .start "/r" none, .query "I" "i.go" 1, .dispose,
    .query "I" "i.go" 1].map fun request => ⟨1, request⟩

theorem run_lifecycle_fullLife :
    (Conversation.run promptOracle 5 5 .initial fullLife).world.log =
      [.start "/r", .query "I" "i.go" 1, .dispose] ∧
    ((Conversation.run promptOracle 5 5 .initial fullLife).next promptOracle
      ⟨1, .start "/r" none⟩).world.log = [.start "/r", .query "I" "i.go" 1, .dispose] := by
  have log : (Conversation.run promptOracle 5 5 .initial fullLife).world.log =
      [.start "/r", .query "I" "i.go" 1, .dispose] := by decide
  obtain ⟨_, _, _, conduct⟩ := run_lifecycle promptOracle 5 5 .initial fullLife
  have refused := (conduct ⟨1, .start "/r" none⟩).refused (.started (.error .disposed)) rfl
  exact ⟨log, (congrArg (fun c => c.world.log) refused).trans log⟩

end ArchAtlas.Matching
