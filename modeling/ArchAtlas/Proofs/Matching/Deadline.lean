import ArchAtlas.Proofs.Matching.Lifecycle

/-!
The deadline of a session. It is set when the session is started and no later call moves it, while the
clock only goes forward, between the calls and inside them. So queries are let through up to the
deadline, and none from then on.

The clock is read three times on the way of a query to the oracle: when the query begins, when its time
is weighed against the deadline, and when its timer is armed. `Conversation.begun`, `weighed` and `armed`
are the worlds of these moments.

* `Under` is what a session that has been started works under, `Under.next` that one call keeps it and
  does not turn the clock back, `Under.after` that a run of calls does so;
* `Under.reaches_iff` says which queries are let through, `Under.spent_after` that time which has run out
  stays so;
* `Timely` gathers what becomes of a query, and `queries_keep_deadline` shows it of every query;
* `query_held_past_deadline`: an oracle that holds its caller up can outlast the deadline.
-/

namespace ArchAtlas.Matching

/-- A query on a session, and how long it is waited before it. -/
structure Query where
  wait : Nat
  name : String
  file : String
  line : UInt32
  deriving DecidableEq, Repr

namespace Query

def turn (q : Query) : Turn := ⟨q.wait, .query q.name q.file q.line⟩

def call (q : Query) : OracleCall := .query q.name q.file q.line

def givenUp (q : Query) (elapsed : Nat) : Response :=
  .answered (.error (.timeout (Session.operation q.name) elapsed))

end Query

namespace Conversation

def after (oracle : Oracle) (c : Conversation) (turns : List Turn) : Conversation :=
  turns.foldl (next oracle) c

/-- The world when a query begins. -/
def begun (c : Conversation) (q : Query) : World := (c.world.later q.wait).tick

/-- The world when what is left until the deadline has been worked out. -/
def weighed (c : Conversation) (q : Query) : World := (c.begun q).tick

/-- The world when the oracle has handed the query over and its timer is armed. -/
def armed (oracle : Oracle) (c : Conversation) (q : Query) : World :=
  let reply := oracle.respond c.world.log q.call
  { ((c.weighed q).later reply.eager).tick with log := c.world.log ++ [q.call] }

/-- The world when a query that hangs is abandoned, where the deadline is at `due` and a query may take
`limit`. -/
def abandoned (oracle : Oracle) (due limit : Nat) (c : Conversation) (q : Query) : World :=
  let reply := oracle.respond c.world.log q.call
  (c.armed oracle q).later (max reply.busy (min limit (due - (c.weighed q).clock)))

@[simp] theorem weighed_log (c : Conversation) (q : Query) : (c.weighed q).log = c.world.log := rfl

/-- The query is let through to the oracle. -/
def Reaches (oracle : Oracle) (c : Conversation) (q : Query) : Prop :=
  (c.next oracle q.turn).world.log = c.world.log ++ [q.call]

/-- The session is ready, and yet the query does not reach the oracle. -/
def Refuses (oracle : Oracle) (c : Conversation) (q : Query) : Prop :=
  c.session.state = .ready ∧ (c.next oracle q.turn).world.log = c.world.log

end Conversation

/-! ## The calls that take time -/

theorem World.le_clock_tick (w : World) : w.clock ≤ w.tick.clock := Nat.le_add_right _ _

theorem Oracle.le_clock_call (oracle : Oracle) (budget : Nat) (c : OracleCall) (w : World) :
    w.clock ≤ (oracle.call budget c w).2.clock := by
  have armed := (w.later (oracle.respond w.log c).eager).le_clock_tick
  have handed : w.clock ≤ (w.later (oracle.respond w.log c).eager).clock := Nat.le_add_right _ _
  unfold Oracle.call
  dsimp only
  split <;> exact Nat.le_add_right_of_le (Nat.le_trans handed armed)

/-- The three readings of the clock come one after the other. -/
theorem Conversation.readings_ordered (oracle : Oracle) (c : Conversation) (q : Query) :
    c.world.clock + q.wait ≤ (c.begun q).clock ∧ (c.begun q).clock ≤ (c.weighed q).clock ∧
      (c.weighed q).clock ≤ (c.armed oracle q).clock := by
  refine ⟨(c.world.later q.wait).le_clock_tick, (c.begun q).le_clock_tick, ?_⟩
  let reply := oracle.respond c.world.log q.call
  have handed : (c.weighed q).clock ≤ ((c.weighed q).later reply.eager).clock := Nat.le_add_right _ _
  exact Nat.le_trans handed ((c.weighed q).later reply.eager).le_clock_tick

namespace Session

theorem le_clock_budget (s : Session) (perCall : Nat) (w : World) :
    w.clock ≤ (s.budget perCall w).2.clock := by
  unfold budget
  split
  · exact w.le_clock_tick
  · exact Nat.le_refl _

theorem query_of_no_budget (oracle : Oracle) {s : Session} {w : World} (name file : String)
    (line : UInt32) (ready : s.state = .ready) (spent : (s.budget s.queryTimeout w.tick).1 = 0) :
    s.query oracle name file line w =
      (.error (.timeout (operation name) 0), (s.budget s.queryTimeout w.tick).2) := by
  simp only [query, ready, if_pos spent]

/-- With budget, a ready session calls the oracle. -/
theorem query_of_budget (oracle : Oracle) {s : Session} {w : World} (name file : String)
    (line : UInt32) (ready : s.state = .ready) (left : (s.budget s.queryTimeout w.tick).1 ≠ 0) :
    let allowed := s.budget s.queryTimeout w.tick
    s.query oracle name file line w =
      match oracle.call allowed.1 (.query name file line) allowed.2 with
      | (some result, w') => (result, w')
      | (none, w') =>
        (.error (.timeout (operation name) (w'.tick.clock - w.tick.clock)), w'.tick) := by
  unfold query
  rw [ready]
  exact if_neg left

theorem le_clock_query (oracle : Oracle) (name file : String) (line : UInt32) (s : Session)
    (w : World) : w.clock ≤ (s.query oracle name file line w).2.clock := by
  cases state : s.state with
  | uninitialized | disposed =>
    simp only [query, state]
    exact Nat.le_refl _
  | ready =>
    have read : w.clock ≤ (s.budget s.queryTimeout w.tick).2.clock :=
      Nat.le_trans w.le_clock_tick (s.le_clock_budget _ _)
    by_cases spent : (s.budget s.queryTimeout w.tick).1 = 0
    · rw [query_of_no_budget oracle name file line state spent]
      exact read
    · rw [query_of_budget oracle name file line state spent]
      have called := Nat.le_trans read (oracle.le_clock_call (s.budget s.queryTimeout w.tick).1
        (.query name file line) (s.budget s.queryTimeout w.tick).2)
      split
      · rename_i w' back
        rwa [back] at called
      · rename_i w' back
        rw [back] at called
        exact Nat.le_trans called w'.le_clock_tick

theorem le_clock_dispose (oracle : Oracle) (s : Session) (w : World) :
    w.clock ≤ (s.dispose oracle w).2.clock := by
  unfold dispose
  split
  · exact Nat.le_refl _
  · exact oracle.le_clock_call _ _ _

theorem start_of_begun (oracle : Oracle) (root : String) (deadline : Option Nat) {s : Session}
    (w : World) (begun : s.state ≠ .uninitialized) :
    (s.start oracle root deadline w).2 = (s, w) := by
  unfold start
  cases state : s.state with
  | uninitialized => exact absurd state begun
  | ready | disposed => rfl

end Session

/-! ## What a started session works under -/

/-- The session has been started, its deadline is at `due`, and a query may take `limit`. -/
structure Under (due limit : Nat) (s : Session) : Prop where
  begun : s.state ≠ .uninitialized
  deadline : s.deadline = some due
  queryTimeout : s.queryTimeout = limit

/-- A start that succeeds sets the deadline, counted from when it was called. -/
theorem Session.under_of_start {oracle : Oracle} {s s₀ : Session} {w w₀ : World} {root : String}
    {d : Nat} (fresh : s.state = .uninitialized)
    (opened : s.start oracle root (some d) w = (.ok (), s₀, w₀)) :
    Under (w.tick.clock + d) s.queryTimeout s₀ := by
  simp only [start, fresh] at opened
  split at opened
  · simp only [Prod.mk.injEq] at opened
    obtain ⟨-, rfl, -⟩ := opened
    exact ⟨by simp, rfl, rfl⟩
  · simp at opened
  · simp at opened

section

variable {oracle : Oracle} {due limit : Nat} {c : Conversation} {q : Query}

/-- One call keeps what a session works under, and does not turn the clock back. -/
theorem Under.next (h : Under due limit c.session) (oracle : Oracle) (t : Turn) :
    Under due limit (c.next oracle t).session ∧
      c.world.clock + t.wait ≤ (c.next oracle t).world.clock := by
  obtain ⟨wait, request⟩ := t
  cases request with
  | start root deadline =>
    have same := c.session.start_of_begun oracle root deadline (c.world.later wait) h.begun
    have session : (c.next oracle ⟨wait, .start root deadline⟩).session = c.session :=
      congrArg Prod.fst same
    have world : (c.next oracle ⟨wait, .start root deadline⟩).world = c.world.later wait :=
      congrArg Prod.snd same
    rw [session, world]
    exact ⟨h, Nat.le_refl _⟩
  | query name file line =>
    exact ⟨h, c.session.le_clock_query oracle name file line (c.world.later wait)⟩
  | dispose =>
    refine ⟨?_, c.session.le_clock_dispose oracle (c.world.later wait)⟩
    change Under due limit (c.session.dispose oracle (c.world.later wait)).1
    unfold Session.dispose
    split
    · exact h
    · exact ⟨by simp, h.deadline, h.queryTimeout⟩

theorem Under.after (h : Under due limit c.session) (oracle : Oracle) (turns : List Turn) :
    Under due limit (c.after oracle turns).session ∧
      c.world.clock ≤ (c.after oracle turns).world.clock := by
  induction turns generalizing c with
  | nil => exact ⟨h, Nat.le_refl _⟩
  | cons t turns ih =>
    obtain ⟨kept, forward⟩ := h.next oracle t
    obtain ⟨kept', forward'⟩ := ih kept
    exact ⟨kept', Nat.le_trans (Nat.le_of_add_right_le forward) forward'⟩

/-- A session that is ready stays so unless it is released. -/
theorem ready_after (ready : c.session.state = .ready) (oracle : Oracle) {turns : List Turn}
    (held : ∀ t ∈ turns, t.request ≠ .dispose) : (c.after oracle turns).session.state = .ready := by
  induction turns generalizing c with
  | nil => exact ready
  | cons t turns ih =>
    refine ih ?_ fun t' mem => held t' (List.mem_cons_of_mem _ mem)
    obtain ⟨wait, request⟩ := t
    cases request with
    | start root deadline =>
      have same := c.session.start_of_begun oracle root deadline (c.world.later wait) (by simp [ready])
      exact (congrArg (fun r => r.1.state) same).trans ready
    | query name file line => exact ready
    | dispose => exact absurd rfl (held _ List.mem_cons_self)

/-! ## Which queries are let through -/

theorem next_query (oracle : Oracle) (c : Conversation) (q : Query) :
    let asked := c.session.query oracle q.name q.file q.line (c.world.later q.wait)
    c.next oracle q.turn = ⟨c.session, asked.2, c.responses ++ [.answered asked.1]⟩ := rfl

/-- A query of a session that is not ready changes nothing but its responses. -/
theorem next_of_not_ready (q : Query) (closed : c.session.state ≠ .ready) :
    (c.next oracle q.turn).world = c.world.later q.wait := by
  rw [next_query]
  dsimp only
  unfold Session.query
  cases state : c.session.state with
  | uninitialized | disposed => rfl
  | ready => exact absurd state closed

/-- What a query is weighed to, when it has begun. -/
theorem Under.budget_eq (h : Under due limit c.session) (q : Query) :
    c.session.budget c.session.queryTimeout (c.world.later q.wait).tick =
      (min limit (due - (c.weighed q).clock), c.weighed q) := by
  simp only [Session.budget, h.deadline, h.queryTimeout]
  rfl

/-- Without budget, a ready session gives the query up at once. -/
theorem Under.next_late (h : Under due limit c.session) (oracle : Oracle)
    (ready : c.session.state = .ready) (late : limit = 0 ∨ due ≤ (c.weighed q).clock) :
    c.next oracle q.turn = ⟨c.session, c.weighed q, c.responses ++ [q.givenUp 0]⟩ := by
  have spent : (c.session.budget c.session.queryTimeout (c.world.later q.wait).tick).1 = 0 := by
    rw [h.budget_eq]
    dsimp only
    omega
  have asked := Session.query_of_no_budget oracle q.name q.file q.line ready spent
  rw [h.budget_eq] at asked
  rw [next_query, asked]
  rfl

/-- In time, a ready session calls the oracle with what is left. -/
theorem Under.next_inTime (h : Under due limit c.session) (oracle : Oracle)
    (ready : c.session.state = .ready) (inTime : 0 < limit ∧ (c.weighed q).clock < due) :
    c.session.query oracle q.name q.file q.line (c.world.later q.wait) =
      match oracle.call (min limit (due - (c.weighed q).clock)) q.call (c.weighed q) with
      | (some result, w) => (result, w)
      | (none, w) => (.error (.timeout (Session.operation q.name)
          (w.tick.clock - (c.begun q).clock)), w.tick) := by
  have left : (c.session.budget c.session.queryTimeout (c.world.later q.wait).tick).1 ≠ 0 := by
    rw [h.budget_eq]
    dsimp only
    omega
  have asked := Session.query_of_budget oracle q.name q.file q.line ready left
  rw [h.budget_eq] at asked
  exact asked

/-- A query that does not come back is abandoned, and the clock is read once more. -/
theorem Under.next_hangs (h : Under due limit c.session) (oracle : Oracle)
    (ready : c.session.state = .ready) (inTime : 0 < limit ∧ (c.weighed q).clock < due)
    (hangs : (oracle.respond c.world.log q.call).outcome = .hangs) :
    let given := c.abandoned oracle due limit q
    c.next oracle q.turn = ⟨c.session, given.tick,
      c.responses ++ [q.givenUp (given.tick.clock - (c.begun q).clock)]⟩ := by
  have called : oracle.call (min limit (due - (c.weighed q).clock)) q.call (c.weighed q) =
      (none, c.abandoned oracle due limit q) := by
    have silent : (oracle.respond (c.weighed q).log q.call).outcome = .hangs := hangs
    simp only [Oracle.call, silent]
    rfl
  have asked := h.next_inTime oracle ready inTime
  rw [called] at asked
  rw [next_query, asked]
  rfl

/-- A query reaches the oracle just if the session is ready and has time left for it. -/
theorem Under.reaches_iff (h : Under due limit c.session) : c.Reaches oracle q ↔
    c.session.state = .ready ∧ 0 < limit ∧ (c.weighed q).clock < due := by
  constructor
  · intro reaches
    by_cases ready : c.session.state = .ready
    · by_cases late : limit = 0 ∨ due ≤ (c.weighed q).clock
      · rw [Conversation.Reaches, h.next_late oracle ready late] at reaches
        simp at reaches
      · exact ⟨ready, by omega⟩
    · rw [Conversation.Reaches, next_of_not_ready q ready] at reaches
      simp [World.later] at reaches
  · rintro ⟨ready, inTime⟩
    have log := oracle.call_log (min limit (due - (c.weighed q).clock)) q.call (c.weighed q)
    rw [Conversation.Reaches, next_query, h.next_inTime oracle ready inTime]
    split
    · rename_i back
      rwa [back] at log
    · rename_i back
      rwa [back] at log

theorem Under.refuses_iff (h : Under due limit c.session) : c.Refuses oracle q ↔
    c.session.state = .ready ∧ (limit = 0 ∨ due ≤ (c.weighed q).clock) := by
  constructor
  · rintro ⟨ready, kept⟩
    refine ⟨ready, ?_⟩
    by_contra inTime
    have reaches : c.Reaches oracle q := h.reaches_iff.mpr ⟨ready, by omega⟩
    rw [Conversation.Reaches, kept] at reaches
    simp at reaches
  · rintro ⟨ready, late⟩
    refine ⟨ready, ?_⟩
    rw [h.next_late oracle ready late]
    rfl

/-- Once there is no time left, there is none after any further calls. -/
theorem Under.spent_after (h : Under due limit c.session) (late : limit = 0 ∨ due ≤ c.world.clock)
    (oracle : Oracle) (turns : List Turn) (q : Query) :
    limit = 0 ∨ due ≤ ((c.after oracle turns).weighed q).clock := by
  have forward := (h.after oracle turns).2
  obtain ⟨begun, weighed, -⟩ := (c.after oracle turns).readings_ordered oracle q
  refine late.imp_right fun past => ?_
  calc due
    _ ≤ c.world.clock := past
    _ ≤ (c.after oracle turns).world.clock := forward
    _ ≤ (c.after oracle turns).world.clock + q.wait := Nat.le_add_right _ _
    _ ≤ ((c.after oracle turns).begun q).clock := begun
    _ ≤ ((c.after oracle turns).weighed q).clock := weighed

/-! ## What becomes of a query -/

/-- What becomes of a query on a session whose deadline is at `due`, where a query may take `limit`. It
reaches the oracle only before the deadline. If it does not come back, it is abandoned once the time that
was left when it was weighed, or its own if that is less, has passed since its timer was armed, or as soon
as the oracle lets go of its caller, if that is later; so by the deadline and within its own time, where
no time passes before the timer is armed and the oracle lets go of its caller soon enough. If it is
refused for want of time, it is heard to have taken too long and nothing changes but the clock; and no
later query gets through, each of them being refused likewise until the session is released. -/
structure Timely (oracle : Oracle) (due limit : Nat) (c : Conversation) (q : Query) : Prop where
  ordered : (c.begun q).clock ≤ (c.weighed q).clock ∧
    (c.weighed q).clock ≤ (c.armed oracle q).clock
  reaches_iff : c.Reaches oracle q ↔ c.session.state = .ready ∧ 0 < limit ∧ (c.weighed q).clock < due
  abandoned : c.Reaches oracle q → (oracle.respond c.world.log q.call).outcome = .hangs →
    let given := c.abandoned oracle due limit q
    given.clock = (c.armed oracle q).clock + max (oracle.respond c.world.log q.call).busy
      (min limit (due - (c.weighed q).clock)) ∧
    c.next oracle q.turn = ⟨c.session, given.tick,
      c.responses ++ [q.givenUp (given.tick.clock - (c.begun q).clock)]⟩
  abandoned_inTime : c.Reaches oracle q → (c.armed oracle q).clock = (c.begun q).clock →
    (oracle.respond c.world.log q.call).busy ≤ min limit (due - (c.begun q).clock) →
    (c.abandoned oracle due limit q).clock = min due ((c.begun q).clock + limit)
  refuses_iff : c.Refuses oracle q ↔
    c.session.state = .ready ∧ (limit = 0 ∨ due ≤ (c.weighed q).clock)
  refused : c.Refuses oracle q →
    c.next oracle q.turn = ⟨c.session, c.weighed q, c.responses ++ [q.givenUp 0]⟩
  refused_later : c.Refuses oracle q → ∀ (turns : List Turn) (later : Query),
    let c' := (c.next oracle q.turn).after oracle turns
    ¬ c'.Reaches oracle later ∧
      ((∀ t ∈ turns, t.request ≠ .dispose) → c'.Refuses oracle later)

theorem Under.timely (h : Under due limit c.session) (oracle : Oracle) (q : Query) :
    Timely oracle due limit c q where
  ordered := (c.readings_ordered oracle q).2
  reaches_iff := h.reaches_iff
  refuses_iff := h.refuses_iff
  abandoned := by
    intro reaches hangs
    obtain ⟨ready, inTime⟩ := h.reaches_iff.mp reaches
    exact ⟨rfl, h.next_hangs oracle ready inTime hangs⟩
  abandoned_inTime := by
    intro reaches armed busy
    obtain ⟨-, -, before⟩ := h.reaches_iff.mp reaches
    obtain ⟨-, begun, weighed⟩ := c.readings_ordered oracle q
    have ends : (c.abandoned oracle due limit q).clock = (c.armed oracle q).clock +
        max (oracle.respond c.world.log q.call).busy (min limit (due - (c.weighed q).clock)) := rfl
    omega
  refused := by
    intro refuses
    obtain ⟨ready, late⟩ := h.refuses_iff.mp refuses
    exact h.next_late oracle ready late
  refused_later := by
    intro refuses turns later
    obtain ⟨ready, late⟩ := h.refuses_iff.mp refuses
    have now := h.next_late oracle ready late
    have kept : Under due limit (c.next oracle q.turn).session := (h.next oracle q.turn).1
    have spent : limit = 0 ∨ due ≤ (c.next oracle q.turn).world.clock := by
      rw [now]
      exact late
    have later' := kept.spent_after spent oracle turns later
    have under := (kept.after oracle turns).1
    constructor
    · intro reaches
      obtain ⟨-, inTime⟩ := under.reaches_iff.mp reaches
      omega
    · intro held
      have still : (c.next oracle q.turn).session.state = .ready := by
        rw [now]
        exact ready
      exact under.refuses_iff.mpr ⟨ready_after still oracle held, later'⟩

end

/-- Whatever the oracle does, and however much time passes between the calls and inside them: where a
session has been started with a deadline, every later query keeps to it. -/
theorem queries_keep_deadline {oracle : Oracle} {s s₀ : Session} {w w₀ : World} {root : String}
    {d : Nat} (fresh : s.state = .uninitialized)
    (opened : s.start oracle root (some d) w = (.ok (), s₀, w₀)) (turns : List Turn) (q : Query) :
    Timely oracle (w.tick.clock + d) s.queryTimeout
      (Conversation.after oracle ⟨s₀, w₀, []⟩ turns) q := by
  have under : Under (w.tick.clock + d) s.queryTimeout s₀ := Session.under_of_start fresh opened
  have later := Under.after (c := ⟨s₀, w₀, []⟩) under oracle turns
  exact later.1.timely oracle q

/-- An oracle that holds whoever asks for `A` up for some time and then falls silent; all else it answers
at once. -/
def silentOracle (busy : Nat) : Oracle :=
  ⟨fun _ call =>
    match call with
    | .query "A" _ _ => ⟨0, busy, .hangs⟩
    | _ => ⟨0, 0, .answers []⟩⟩

def askA : Query := ⟨0, "A", "f.go", 1⟩

def askB : Query := ⟨5, "B", "f.go", 1⟩

/-- A world whose clock stands still when it is read, but for the fourteenth time. -/
def hesitant : World := ⟨0, [], List.replicate 13 0 ++ [5]⟩

/-- Of three queries that hang, two are given up when their own time is over. The third has 20 ms left
until the deadline at 120 ms, but its timer is armed 5 ms after that was found, so it is given up at
125 ms; the next is refused, and so is one that is made still later. -/
theorem queries_keep_deadline_silentOracle :
    let c : Conversation :=
      ⟨⟨.ready, 1000, 50, some 120⟩, ⟨0, [.start "/w"], List.replicate 10 0 ++ [5]⟩, []⟩
    let two := c.after (silentOracle 0) [askA.turn, askA.turn]
    let three := c.after (silentOracle 0) [askA.turn, askA.turn, askA.turn]
    (Session.new 1000 50).state = .uninitialized ∧
    (Session.new 1000 50).start (silentOracle 0) "/w" (some 120) hesitant =
      (.ok (), c.session, c.world) ∧
    (c.abandoned (silentOracle 0) 120 50 askA).clock = 50 ∧
    (two.begun askA).clock = 100 ∧ (two.armed (silentOracle 0) askA).clock = 105 ∧
    (two.next (silentOracle 0) askA.turn).world.clock = 125 ∧
    (three.next (silentOracle 0) askB.turn).world.log = three.world.log ∧
    ((three.next (silentOracle 0) askB.turn).after (silentOracle 0) [askA.turn]).Refuses
      (silentOracle 0) askB := by
  intro c two three
  have fresh : (Session.new 1000 50).state = .uninitialized := rfl
  have opened : (Session.new 1000 50).start (silentOracle 0) "/w" (some 120) hesitant =
      (.ok (), c.session, c.world) := by decide
  have first := queries_keep_deadline fresh opened [] askA
  have third := queries_keep_deadline fresh opened [askA.turn, askA.turn] askA
  have fourth := queries_keep_deadline fresh opened [askA.turn, askA.turn, askA.turn] askB
  have reaches₁ : c.Reaches (silentOracle 0) askA := first.reaches_iff.mpr ⟨rfl, by decide, by decide⟩
  have reaches₃ : two.Reaches (silentOracle 0) askA :=
    third.reaches_iff.mpr ⟨rfl, by decide, by decide⟩
  have refuses : three.Refuses (silentOracle 0) askB :=
    fourth.refuses_iff.mpr ⟨ready_after rfl _ (by decide), Or.inr (by decide +kernel)⟩
  have prompt := first.abandoned_inTime reaches₁ (by decide) (by decide)
  refine ⟨fresh, opened, prompt, by decide, by decide, ?_, ?_, ?_⟩
  · rw [(third.abandoned reaches₃ rfl).2]
    decide
  · rw [fourth.refused refuses]
    exact three.weighed_log askB
  · exact (fourth.refused_later refuses [askA.turn] askB).2 (by decide)

/-- Held up for 600 ms, a query that hangs is given up long after its own 50 ms and the deadline at
300 ms, too late for the query behind it. -/
theorem query_held_past_deadline :
    let c : Conversation := ⟨⟨.ready, 1000, 50, some 300⟩, ⟨0, [.start "/w"], []⟩, []⟩
    let given := c.abandoned (silentOracle 600) 300 50 askA
    (Session.new 1000 50).start (silentOracle 600) "/w" (some 300) .initial =
      (.ok (), c.session, c.world) ∧
    c.Reaches (silentOracle 600) askA ∧
    ((silentOracle 600).respond c.world.log askA.call).outcome = .hangs ∧
    (c.next (silentOracle 600) askA.turn).world = given.tick ∧
    ¬ given.clock ≤ 0 + 300 ∧ ¬ given.clock ≤ (c.begun askA).clock + 50 ∧
    (c.next (silentOracle 600) askA.turn).Refuses (silentOracle 600) askB := by
  exact ⟨rfl, rfl, rfl, rfl, by decide, by decide, rfl, rfl⟩

end ArchAtlas.Matching
