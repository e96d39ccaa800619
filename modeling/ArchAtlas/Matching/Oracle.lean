import ArchAtlas.Matching.Basic

/-!
An oracle: an external service that knows which types implement an interface. It is started, asked,
and released; each call takes time, and may fail or never come back. Time is a clock in milliseconds
that the oracle moves, and that may have moved on by itself whenever it is read; the calls that reach the
oracle are kept in a log.
-/

namespace ArchAtlas.Matching

inductive OracleError where
  | notInitialized
  | disposed
  | timeout (operation : String) (elapsed : Nat)
  | unavailable (reason : String)
  | protocol (reason : String)
  deriving DecidableEq, Repr

def OracleError.message : OracleError → String
  | .notInitialized => "oracle not initialized"
  | .disposed => "oracle already disposed"
  | .timeout operation elapsed =>
    "oracle request '" ++ operation ++ "' timed out after " ++ toString elapsed ++ "ms"
  | .unavailable reason => "oracle unavailable: " ++ reason
  | .protocol reason => "oracle protocol error: " ++ reason

/-- A call that reaches the oracle. -/
inductive OracleCall where
  | start (root : String)
  | query (name file : String) (line : UInt32)
  | dispose
  deriving DecidableEq, Repr

def OracleCall.describe : OracleCall → String
  | .start root => "initialize " ++ root
  | .query name file line => "query " ++ name ++ " " ++ file ++ ":" ++ toString line.toNat
  | .dispose => "dispose"

/-- How a call ends, if it does. -/
inductive Outcome where
  | hangs
  | fails (error : OracleError)
  | answers (types : List String)
  deriving DecidableEq, Repr

/-- What the oracle does with a call: it takes some time before it hands the call over, then keeps its
caller busy for some time, and then the call ends or hangs. -/
structure Reply where
  eager : Nat
  busy : Nat
  outcome : Outcome
  deriving DecidableEq, Repr

/-- An oracle answers a call by what it has been called with before. -/
structure Oracle where
  respond : (log : List OracleCall) → OracleCall → Reply

/-- The clock, and the calls that have reached the oracle. -/
structure World where
  clock : Nat
  log : List OracleCall
  /-- How far the clock has moved on when it is read, reading by reading. -/
  lags : List Nat
  deriving DecidableEq, Repr

namespace World

def initial : World := ⟨0, [], []⟩

/-- The world once some time has passed. -/
def later (w : World) (time : Nat) : World := { w with clock := w.clock + time }

/-- The world when the clock is read. -/
def tick (w : World) : World := ⟨w.clock + w.lags.headD 0, w.log, w.lags.tail⟩

end World

/-- Calls the oracle and waits for at most `budget` once the call has been handed over; there is no result
when the call hangs. Being kept busy does not cut a call short. -/
def Oracle.call (oracle : Oracle) (budget : Nat) (c : OracleCall) (w : World) :
    Option (Except OracleError (List String)) × World :=
  let reply := oracle.respond w.log c
  let armed := { (w.later reply.eager).tick with log := w.log ++ [c] }
  match reply.outcome with
  | .hangs => (none, armed.later (max reply.busy budget))
  | .fails error => (some (.error error), armed.later reply.busy)
  | .answers types => (some (.ok types), armed.later reply.busy)

end ArchAtlas.Matching
