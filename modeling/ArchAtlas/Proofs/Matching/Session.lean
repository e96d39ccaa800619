import ArchAtlas.Matching.Session

namespace ArchAtlas.Matching

@[simp] theorem World.tick_log (w : World) : w.tick.log = w.log := rfl

@[simp] theorem Session.budget_log (s : Session) (perCall : Nat) (w : World) :
    (s.budget perCall w).2.log = w.log := by
  unfold budget
  split <;> rfl

theorem Oracle.call_log (oracle : Oracle) (budget : Nat) (c : OracleCall) (w : World) :
    (oracle.call budget c w).2.log = w.log ++ [c] := by
  simp only [Oracle.call]
  split <;> rfl

/-- A call comes back with types only if the oracle answered with them. -/
theorem Oracle.call_answers {oracle : Oracle} {budget : Nat} {c : OracleCall} {w w' : World}
    {types : List String} (h : oracle.call budget c w = (some (.ok types), w')) :
    (oracle.respond w.log c).outcome = .answers types := by
  unfold Oracle.call at h
  cases outcome : (oracle.respond w.log c).outcome with
  | hangs => simp [outcome] at h
  | fails error => simp [outcome] at h
  | answers found =>
    simp only [outcome, Prod.mk.injEq, Option.some.injEq, Except.ok.injEq] at h
    rw [h.1]

namespace Session

/-- A query that succeeds has reached the oracle, once, and brings back its answer. -/
theorem query_ok {oracle : Oracle} {name file : String} {line : UInt32} {s : Session} {w w' : World}
    {types : List String} (h : s.query oracle name file line w = (.ok types, w')) :
    (oracle.respond w.log (.query name file line)).outcome = .answers types ∧
      w'.log = w.log ++ [.query name file line] := by
  unfold query at h
  cases state : s.state with
  | uninitialized => simp [state] at h
  | disposed => simp [state] at h
  | ready =>
    simp only [state] at h
    generalize asked : s.budget s.queryTimeout w.tick = allowed at h
    obtain ⟨budget, w₁⟩ := allowed
    have before : w₁.log = w.log := by
      have same := s.budget_log s.queryTimeout w.tick
      rwa [asked, World.tick_log] at same
    dsimp only at h
    split at h
    · simp at h
    · have log := oracle.call_log budget (.query name file line) w₁
      split at h
      · rename_i result after called
        obtain ⟨rfl, rfl⟩ := Prod.mk.inj h
        rw [called] at log
        rw [← before]
        exact ⟨Oracle.call_answers called, log⟩
      · simp at h

/-- A start that succeeds on a new session has reached the oracle, once. -/
theorem start_new_ok {oracle : Oracle} {initTimeout queryTimeout : Nat} {root : String}
    {deadline : Option Nat} {s : Session} {w w' : World}
    (h : (Session.new initTimeout queryTimeout).start oracle root deadline w = (.ok (), s, w')) :
    s.state = .ready ∧ w'.log = w.log ++ [.start root] := by
  simp only [start, new] at h
  split at h
  · rename_i called
    simp only [Prod.mk.injEq] at h
    obtain ⟨-, rfl, rfl⟩ := h
    have log := congrArg (fun r => r.2.log) called
    rw [oracle.call_log, budget_log, World.tick_log] at log
    exact ⟨rfl, log.symm⟩
  · simp at h
  · simp at h

theorem dispose_log_of_ready {oracle : Oracle} {s : Session} {w : World} (ready : s.state = .ready) :
    (s.dispose oracle w).2.log = w.log ++ [.dispose] := by
  simp only [dispose, ready]
  exact oracle.call_log _ _ _

end Session

end ArchAtlas.Matching
