import ArchAtlas.Matching.Session
import ArchAtlas.Table

/-!
One run of structural matching. With an oracle, each interface that has methods is asked for in order.
A struct that the oracle names is matched by the oracle alone; every other struct is matched by method
names. As soon as the oracle fails, all that it said is dropped and the whole project is matched by
method names.
-/

namespace ArchAtlas.Matching

/-- Why the oracle's answers were dropped. -/
inductive Fallback where
  | initFailed (error : OracleError)
  | queryFailed (interface : String) (error : OracleError)
  deriving DecidableEq, Repr

def Fallback.message : Fallback → String
  | .initFailed error => "semantic oracle failed to initialize: " ++ error.message
  | .queryFailed interface error =>
    "semantic oracle failed on " ++ interface ++ ": " ++ error.message

/-- What a run finds. -/
structure Matched where
  implementations : List Implementation
  /-- Whether the oracle found at least one. -/
  oracleUsed : Bool
  fallback : Option Fallback
  deriving DecidableEq, Repr

def Matched.countBy (m : Matched) (strategy : Strategy) : Nat :=
  m.implementations.countP fun i => i.strategy = strategy

/-- How long an oracle may take, and how far it is trusted. -/
structure Policy where
  initTimeout : Nat
  queryTimeout : Nat
  deadline : Option Nat
  confidence : Float
  deriving DecidableEq, Repr

/-- Matching by method names alone. -/
def matchHeuristic (p : Facts.Project) : Matched :=
  ⟨heuristic (structs p) (interfaces p), false, none⟩

/-- Matching by method names because the oracle failed. -/
def fallBack (p : Facts.Project) (reason : Fallback) : Matched :=
  { matchHeuristic p with fallback := some reason }

/-- The place of the first struct of each name. -/
def placesByName (structs : List TypeRef) : Table String Nat :=
  structs.zipIdx.foldl (fun t s => t.insertNew s.1.type.name s.2) .empty

/-- The pairs of struct and interface that the oracle named, in the order in which it did. -/
structure Named where
  seen : List (Nat × Nat)
  pairs : List (Nat × Nat)
  deriving DecidableEq, Repr

def Named.empty : Named := ⟨[], []⟩

/-- Notes the struct of a name that the oracle gives for an interface. -/
def Named.add (byName : Table String Nat) (ii : Nat) (n : Named) (name : String) : Named :=
  match byName.get? name with
  | some si => if n.seen.contains (si, ii) then n else ⟨(si, ii) :: n.seen, n.pairs ++ [(si, ii)]⟩
  | none => n

/-- Asks for each interface that has methods, in order, and stops at the first failure. -/
def askAll (oracle : Oracle) (session : Session) (byName : Table String Nat) :
    (interfaces : List (TypeRef × Nat)) → Named → World → Except (String × OracleError) Named × World
  | [], n, w => (.ok n, w)
  | (i, ii) :: rest, n, w =>
    if i.type.methods.isEmpty then askAll oracle session byName rest n w
    else
      let span := i.type.location
      match session.query oracle i.type.name span.file span.startLine w with
      | (.error error, w) => (.error (i.id, error), w)
      | (.ok types, w) =>
        askAll oracle session byName rest (types.foldl (Named.add byName ii) n) w

/-- The order by struct and then by interface. -/
def placeLe (a b : Nat × Nat) : Bool :=
  a.1 < b.1 || a.1 = b.1 && a.2 ≤ b.2

/-- The implementations, once every query has been answered: those that the oracle named, and those of
the other structs by method names. -/
def combine (confidence : Float) (named : List (Nat × Nat)) (structs interfaces : List TypeRef) :
    Matched :=
  let resolved := named.map Prod.fst
  let unresolved := (List.range structs.length).filter fun si => si ∉ resolved
  let unresolvedTypes := unresolved.filterMap fun si => structs[si]?
  let byOracle := named.filterMap fun place =>
    (implementationAt? (.byOracle confidence) structs interfaces place).map (place, ·)
  -- Places among the structs that are left are turned back into places among all.
  let byHeuristic := (pairs unresolvedTypes interfaces).filterMap fun (ui, ii) =>
    unresolved[ui]?.bind fun si =>
      (implementationAt? .byHeuristic structs interfaces (si, ii)).map ((si, ii), ·)
  let found := (byOracle ++ byHeuristic).mergeSort fun a b => placeLe a.1 b.1
  { implementations := found.map Prod.snd
    oracleUsed := 0 < byOracle.length
    fallback := none }

/-- Matching with an oracle. -/
def matchWithOracle (policy : Policy) (oracle : Oracle) (p : Facts.Project) (w : World) :
    Matched × World :=
  let session := Session.new policy.initTimeout policy.queryTimeout
  match session.start oracle p.moduleRoot policy.deadline w with
  | (.error error, _, w) => (fallBack p (.initFailed error), w)
  | (.ok _, session, w) =>
    let (answers, w) :=
      askAll oracle session (placesByName (structs p)) (interfaces p).zipIdx .empty w
    let (_, w) := session.dispose oracle w
    match answers with
    | .error (interface, error) => (fallBack p (.queryFailed interface error), w)
    | .ok named => (combine policy.confidence named.pairs (structs p) (interfaces p), w)

end ArchAtlas.Matching
