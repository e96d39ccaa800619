import ArchAtlas.Matching.Oracle

/-!
A session owns an oracle for one run. It is uninitialized, then ready, then disposed; a start that
fails disposes it at once. Every call has a budget: the time allowed for that call, cut by what is left
until the session's deadline. A query without budget is refused before it reaches the oracle.
-/

namespace ArchAtlas.Matching

inductive SessionState where
  | uninitialized
  | ready
  | disposed
  deriving DecidableEq, Repr

structure Session where
  state : SessionState
  initTimeout : Nat
  queryTimeout : Nat
  /-- The time on the clock after which no query is made. -/
  deadline : Option Nat
  deriving DecidableEq, Repr

namespace Session

def new (initTimeout queryTimeout : Nat) : Session :=
  ⟨.uninitialized, initTimeout, queryTimeout, none⟩

/-- The time allowed for a call, cut by what is left until the deadline. -/
def budget (s : Session) (perCall : Nat) (w : World) : Nat × World :=
  match s.deadline with
  | some deadline => (min perCall (deadline - w.tick.clock), w.tick)
  | none => (perCall, w)

/-- Releases the oracle, once. -/
def dispose (oracle : Oracle) (s : Session) (w : World) : Session × World :=
  match s.state with
  | .disposed => (s, w)
  | _ => ({ s with state := .disposed }, (oracle.call s.initTimeout .dispose w).2)

/-- Starts the oracle, once. A session that is ready stays as it is; a start that fails or hangs
disposes the session. -/
def start (oracle : Oracle) (root : String) (deadline : Option Nat) (s : Session) (w : World) :
    Except OracleError Unit × Session × World :=
  match s.state with
  | .ready => (.ok (), s, w)
  | .disposed => (.error .disposed, s, w)
  | .uninitialized =>
    let w := w.tick
    let started := w.clock
    let s := { s with deadline := deadline.map (started + ·) }
    let (budget, w) := s.budget s.initTimeout w
    match oracle.call budget (.start root) w with
    | (some (.ok _), w) => (.ok (), { s with state := .ready }, w)
    | (some (.error error), w) => (.error error, s.dispose oracle w)
    | (none, w) =>
      let w := w.tick
      (.error (.timeout "initialize" (w.clock - started)), s.dispose oracle w)

/-- The name of a query in messages. -/
def operation (name : String) : String :=
  "getImplementations(" ++ name ++ ")"

/-- Asks for the types that implement an interface. -/
def query (oracle : Oracle) (name file : String) (line : UInt32) (s : Session) (w : World) :
    Except OracleError (List String) × World :=
  match s.state with
  | .uninitialized => (.error .notInitialized, w)
  | .disposed => (.error .disposed, w)
  | .ready =>
    let w := w.tick
    let started := w.clock
    let (budget, w) := s.budget s.queryTimeout w
    if budget = 0 then (.error (.timeout (operation name) 0), w)
    else
      match oracle.call budget (.query name file line) w with
      | (some result, w) => (result, w)
      | (none, w) =>
        let w := w.tick
        (.error (.timeout (operation name) (w.clock - started)), w)

end Session

end ArchAtlas.Matching
