import ArchAtlas.Proofs.Matching.Pairings
import ArchAtlas.Proofs.Matching.Session

/-!
A run never mixes its strategies. Once the oracle fails, every implementation is found by method names;
otherwise a struct is matched by the oracle alone or by method names alone.

* `Names` says from the oracle's replies alone which structs it names for which interfaces;
* `Named.InStep.add`: what is noted of a name, once;
* `askAll_ok`: when every query succeeds, what was noted is what the oracle said;
* `matchWithOracle_cases`: how a run ends.
-/

namespace ArchAtlas.Matching

/-! ## What the oracle says -/

def question (i : TypeRef) : OracleCall :=
  .query i.type.name i.type.location.file i.type.location.startLine

/-- The calls that ask for those of some interfaces that have methods, in order. -/
def questions (interfaces : List TypeRef) : List OracleCall :=
  (interfaces.filter fun i => !i.type.methods.isEmpty).map question

/-- A struct has a name, and no struct before it has. -/
def FirstOfName (structs : List TypeRef) (si : Nat) (name : String) : Prop :=
  (∃ s, structs[si]? = some s ∧ s.type.name = name) ∧
    ∀ sj < si, ∀ s, structs[sj]? = some s → s.type.name ≠ name

/-- The oracle, called with `log` before, names the struct at place `si` for the interface at place
`ii`, which has methods. The interfaces before it that have methods have been asked for in between, and
a name stands for the first struct that has it. -/
def Names (oracle : Oracle) (log : List OracleCall) (structs interfaces : List TypeRef)
    (si ii : Nat) : Prop :=
  ∃ i types name, interfaces[ii]? = some i ∧ i.type.methods ≠ [] ∧
    (oracle.respond (log ++ questions (interfaces.take ii)) (question i)).outcome = .answers types ∧
    name ∈ types ∧ FirstOfName structs si name

/-- The first struct of a name. -/
def indexOfName? (structs : List TypeRef) (name : String) : Option Nat :=
  structs.findIdx? fun s => s.type.name = name

theorem get?_placesByName (structs : List TypeRef) (name : String) :
    (placesByName structs).get? name = indexOfName? structs name :=
  Table.get?_insertNew_zipIdx structs (fun s => s.type.name) .empty name

theorem indexOfName?_eq_some {structs : List TypeRef} {name : String} {si : Nat} :
    indexOfName? structs name = some si ↔ FirstOfName structs si name := by
  unfold indexOfName? FirstOfName
  rw [List.findIdx?_eq_some_iff_getElem]
  constructor
  · rintro ⟨bound, here, before⟩
    refine ⟨⟨structs[si], List.getElem?_eq_getElem bound, by simpa using here⟩, ?_⟩
    intro sj earlier s found
    obtain ⟨bound', rfl⟩ := List.getElem?_eq_some_iff.mp found
    simpa using before sj earlier
  · rintro ⟨⟨s, found, here⟩, before⟩
    obtain ⟨bound, rfl⟩ := List.getElem?_eq_some_iff.mp found
    refine ⟨bound, by simpa using here, ?_⟩
    intro sj earlier
    simpa using before sj earlier _ (List.getElem?_eq_getElem (by omega))

theorem questions_cons (i : TypeRef) (rest : List TypeRef) :
    questions (i :: rest) = questions [i] ++ questions rest := by
  rw [questions, ← List.singleton_append, List.filter_append, List.map_append]
  rfl

theorem questions_of_empty {i : TypeRef} (h : i.type.methods = []) : questions [i] = [] := by
  simp [questions, h]

theorem questions_of_methods {i : TypeRef} (h : i.type.methods ≠ []) :
    questions [i] = [question i] := by
  simp [questions, h]

theorem names_nil {oracle : Oracle} {log : List OracleCall} {structs : List TypeRef} {si ii : Nat} :
    ¬ Names oracle log structs [] si ii := by
  rintro ⟨i, _, _, none, _⟩
  simp at none

theorem names_zero {oracle : Oracle} {log : List OracleCall} {structs rest : List TypeRef}
    {i : TypeRef} {si : Nat} :
    Names oracle log structs (i :: rest) si 0 ↔
      i.type.methods ≠ [] ∧ ∃ types, (oracle.respond log (question i)).outcome = .answers types ∧
        si ∈ types.filterMap (indexOfName? structs) := by
  simp only [Names, List.mem_filterMap, indexOfName?_eq_some]
  constructor
  · rintro ⟨i', types, name, here, some, answered, mem, first⟩
    obtain rfl : i = i' := by simpa using here
    exact ⟨some, types, by simpa [questions] using answered, name, mem, first⟩
  · rintro ⟨some, types, answered, name, mem, first⟩
    exact ⟨i, types, name, rfl, some, by simpa [questions] using answered, mem, first⟩

theorem names_succ {oracle : Oracle} {log : List OracleCall} {structs rest : List TypeRef}
    {i : TypeRef} {si j : Nat} :
    Names oracle log structs (i :: rest) si (j + 1) ↔
      Names oracle (log ++ questions [i]) structs rest si j := by
  simp only [Names, List.getElem?_cons_succ, List.take_succ_cons, questions_cons i (rest.take j),
    List.append_assoc]

/-- Places counted from `k`: the first interface, or one of the others. -/
theorem names_cons {oracle : Oracle} {log : List OracleCall} {structs rest : List TypeRef}
    {i : TypeRef} {si ii k : Nat} :
    (∃ j, ii = k + j ∧ Names oracle log structs (i :: rest) si j) ↔
      (ii = k ∧ Names oracle log structs (i :: rest) si 0) ∨
        ∃ j, ii = k + 1 + j ∧ Names oracle (log ++ questions [i]) structs rest si j := by
  rw [← Nat.or_exists_add_one]
  simp only [names_succ, Nat.add_zero, Nat.add_assoc, Nat.add_comm 1]

/-- The pairs noted are those seen, each once. -/
structure Named.InStep (n : Named) : Prop where
  seen : ∀ x, x ∈ n.seen ↔ x ∈ n.pairs
  once : n.pairs.Nodup

theorem Named.InStep.empty : Named.empty.InStep := ⟨fun _ => Iff.rfl, List.nodup_nil⟩

section

variable {n : Named} (byName : Table String Nat) (ii : Nat)

/-- A name adds the pair of its struct, if there is one that is not noted yet. -/
theorem Named.InStep.add (h : n.InStep) (name : String) :
    (n.add byName ii name).InStep ∧
    ∀ x, x ∈ (n.add byName ii name).pairs ↔
      x ∈ n.pairs ∨ ∃ si, byName.get? name = some si ∧ x = (si, ii) := by
  unfold Named.add
  cases byName.get? name with
  | none => exact ⟨h, fun x => by simp⟩
  | some si =>
    by_cases old : (si, ii) ∈ n.seen
    · have noted := (h.seen _).mp old
      dsimp only
      rw [if_pos (List.contains_iff_mem.mpr old)]
      refine ⟨h, fun x => ⟨Or.inl, ?_⟩⟩
      rintro (mem | ⟨_, same, rfl⟩)
      · exact mem
      · cases same
        exact noted
    · dsimp only
      rw [if_neg (mt List.contains_iff_mem.mp old)]
      refine ⟨⟨fun x => ?_, ?_⟩, fun x => ?_⟩
      · simp [h.seen x, or_comm]
      · refine List.nodup_append.mpr ⟨h.once, by simp, ?_⟩
        rintro x mem y hy rfl
        obtain rfl : x = (si, ii) := by simpa using hy
        exact old ((h.seen _).mpr mem)
      · simp

theorem Named.InStep.foldl_add (h : n.InStep) (types : List String) :
    (types.foldl (Named.add byName ii) n).InStep ∧
    ∀ si ij, (si, ij) ∈ (types.foldl (Named.add byName ii) n).pairs ↔
      (si, ij) ∈ n.pairs ∨ ij = ii ∧ si ∈ types.filterMap byName.get? := by
  induction types generalizing n with
  | nil => exact ⟨h, by simp⟩
  | cons name types ih =>
    obtain ⟨step, added⟩ := h.add byName ii name
    obtain ⟨inStep, all⟩ := ih step
    refine ⟨inStep, fun si ij => ?_⟩
    rw [List.foldl_cons, all, added]
    cases found : byName.get? name with
    | none => simp [found]
    | some sj =>
      simp only [found, Option.some.injEq, exists_eq_left', Prod.mk.injEq, List.filterMap_cons,
        List.mem_cons, or_assoc]
      refine or_congr_right ?_
      constructor
      · rintro (⟨rfl, rfl⟩ | ⟨rfl, mem⟩)
        · exact ⟨rfl, Or.inl rfl⟩
        · exact ⟨rfl, Or.inr mem⟩
      · rintro ⟨rfl, rfl | mem⟩
        · exact Or.inl ⟨rfl, rfl⟩
        · exact Or.inr ⟨rfl, mem⟩

end

/-- When every query succeeds, each interface with methods has been asked for in order, and the structs
noted for it are those that the oracle names. -/
theorem askAll_ok {oracle : Oracle} {session : Session} {structs interfaces : List TypeRef} {k : Nat}
    {w w' : World} {n n' : Named} (inStep : n.InStep)
    (h : askAll oracle session (placesByName structs) (interfaces.zipIdx k) n w = (.ok n', w')) :
    w'.log = w.log ++ questions interfaces ∧ n'.InStep ∧
    ∀ si ii, (si, ii) ∈ n'.pairs ↔
      (si, ii) ∈ n.pairs ∨ ∃ j, ii = k + j ∧ Names oracle w.log structs interfaces si j := by
  induction interfaces generalizing k w n with
  | nil =>
    simp only [List.zipIdx_nil, askAll, Prod.mk.injEq, Except.ok.injEq] at h
    obtain ⟨rfl, rfl⟩ := h
    simp [questions, names_nil, inStep]
  | cons i rest ih =>
    simp only [List.zipIdx_cons, askAll] at h
    simp only [names_cons, names_zero]
    rw [questions_cons, ← List.append_assoc]
    split at h
    · rename_i empty
      have none : i.type.methods = [] := by simpa using empty
      obtain ⟨log, kept, named⟩ := ih inStep h
      rw [questions_of_empty none, List.append_nil]
      refine ⟨log, kept, fun si ii => (named si ii).trans ?_⟩
      simp [none]
    · rename_i nonempty
      have some : i.type.methods ≠ [] := by simpa using nonempty
      rw [questions_of_methods some]
      split at h
      · simp at h
      · rename_i types asked queried
        obtain ⟨answered, logged⟩ := Session.query_ok queried
        obtain ⟨step, added⟩ := inStep.foldl_add (placesByName structs) k types
        obtain ⟨log, kept, named⟩ := ih step h
        refine ⟨by rw [log, logged]; rfl, kept, fun si ii => ?_⟩
        rw [named si ii, added, logged, or_assoc]
        -- What was noted before, the first query's answer and the later ones are apart on both sides.
        refine or_congr_right (or_congr ?_ Iff.rfl)
        simp [question, answered, some, get?_placesByName]

/-! ## A whole run -/

theorem Names.lt_length {oracle : Oracle} {log : List OracleCall} {structs interfaces : List TypeRef}
    {si ii : Nat} (h : Names oracle log structs interfaces si ii) :
    si < structs.length ∧ ii < interfaces.length := by
  obtain ⟨i, _, _, there, _, _, _, ⟨s, here, _⟩, _⟩ := h
  exact ⟨(List.getElem?_eq_some_iff.mp here).1, (List.getElem?_eq_some_iff.mp there).1⟩

/-- A run falls back, or every query has succeeded and its answers are combined. -/
theorem matchWithOracle_cases (policy : Policy) (oracle : Oracle) (p : Facts.Project) (w : World) :
    (∃ reason w', matchWithOracle policy oracle p w = (fallBack p reason, w')) ∨
    ∃ named w', matchWithOracle policy oracle p w =
        (combine policy.confidence named (structs p) (interfaces p), w') ∧
      w'.log = w.log ++ [.start p.moduleRoot] ++ questions (interfaces p) ++ [.dispose] ∧
      named.Nodup ∧
      ∀ si ii, (si, ii) ∈ named ↔
        Names oracle (w.log ++ [.start p.moduleRoot]) (structs p) (interfaces p) si ii := by
  unfold matchWithOracle
  dsimp only
  split
  · exact Or.inl ⟨_, _, rfl⟩
  · rename_i session started start
    obtain ⟨ready, log⟩ := Session.start_new_ok start
    split
    · exact Or.inl ⟨_, _, rfl⟩
    · rename_i n answered
      obtain ⟨asked, inStep, named⟩ := askAll_ok .empty (Prod.ext answered rfl)
      rw [log] at asked named
      refine Or.inr ⟨n.pairs, _, rfl, ?_, inStep.once, ?_⟩
      · rw [Session.dispose_log_of_ready ready, asked]
      · intro si ii
        simpa [Named.empty] using named si ii

/-- A run never mixes its strategies. If it falls back, all it finds is found by method names. If not,
what it finds are matches by struct and then by interface, each once: the oracle's are those it names, a
struct that has one of them has no other, and every other struct has the matches it has by method names. -/
theorem matchWithOracle_strategies_apart (policy : Policy) (oracle : Oracle) (p : Facts.Project)
    (w : World) :
    let m := (matchWithOracle policy oracle p w).1
    (∀ reason, m.fallback = some reason →
      m.oracleUsed = false ∧ m.implementations = (matchHeuristic p).implementations) ∧
    (m.fallback = none →
      (matchWithOracle policy oracle p w).2.log =
        w.log ++ [.start p.moduleRoot] ++ questions (interfaces p) ++ [.dispose] ∧
      ∃ found : List Pairing,
        List.Forall₂ (Pairing.Realizes policy.confidence (structs p) (interfaces p)) found
          m.implementations ∧
        found.Pairwise Pairing.Before ∧
        (∀ s i, ⟨s, i, .oracle⟩ ∈ found ↔
          Names oracle (w.log ++ [.start p.moduleRoot]) (structs p) (interfaces p) s i) ∧
        (∀ s i, ⟨s, i, .oracle⟩ ∈ found → ∀ j, ⟨s, j, .heuristic⟩ ∉ found) ∧
        (∀ s, (∀ i, ⟨s, i, .oracle⟩ ∉ found) →
          ∀ j, ⟨s, j, .heuristic⟩ ∈ found ↔ (s, j) ∈ pairs (structs p) (interfaces p)) ∧
        (m.oracleUsed = true ↔ ∃ s i, ⟨s, i, .oracle⟩ ∈ found)) ∧
    List.Forall₂ (Pairing.Realizes policy.confidence (structs p) (interfaces p))
      ((pairs (structs p) (interfaces p)).map .byHeuristic) (matchHeuristic p).implementations := by
  intro m
  refine ⟨?_, ?_, ?_⟩
  · intro reason fell
    obtain ⟨reason', w', run⟩ | ⟨named, w', run, -⟩ := matchWithOracle_cases policy oracle p w
    · simp only [m, run]
      exact ⟨rfl, rfl⟩
    · simp [m, run, combine] at fell
  · intro kept
    obtain ⟨reason, w', run⟩ | ⟨named, w', run, log, once, told⟩ :=
      matchWithOracle_cases policy oracle p w
    · simp [m, run, fallBack] at kept
    · have inside : ∀ x ∈ named, x.1 < (structs p).length ∧ x.2 < (interfaces p).length :=
        fun x mem => ((told x.1 x.2).mp mem).lt_length
      simp only [m, run]
      have byOracle (s i : Nat) : ⟨s, i, .oracle⟩ ∈ pairings named (structs p) (interfaces p) ↔
          Names oracle (w.log ++ [.start p.moduleRoot]) (structs p) (interfaces p) s i := by
        rw [oracle_mem_pairings, isNamed, List.contains_iff_mem, told s i]
        constructor
        · exact fun h => h.2.2
        · exact fun h => ⟨h.lt_length.1, h.lt_length.2, h⟩
      rw [combine_implementations once inside, combine_oracleUsed inside]
      refine ⟨log, pairings named (structs p) (interfaces p), matchEach_realizes _ _ _ _,
        pairings_ordered _ _ _, byOracle, ?_, ?_, ?_⟩
      · intro s i oracles j heuristics
        obtain ⟨-, bound, isNamed⟩ := oracle_mem_pairings.mp oracles
        have := (heuristic_mem_pairings.mp heuristics).1 i bound
        simp [isNamed] at this
      · intro s noOracle j
        rw [heuristic_mem_pairings, and_iff_right_iff_imp]
        intro pair i bound
        obtain ⟨concrete, -, here, -⟩ := mem_pairs.mp pair
        have inside := (List.getElem?_eq_some_iff.mp here).1
        cases h : isNamed named s i
        · rfl
        · exact absurd (oracle_mem_pairings.mpr ⟨inside, bound, h⟩) (noOracle i)
      · simp only [byOracle, told]
  · rw [← pairings_nil, matchHeuristic, ← matchEach_nil policy.confidence]
    exact matchEach_realizes _ _ _ _

/-- Two structs with the method of an interface. -/
def twoShapes : Facts.Project :=
  let area : Facts.FuncDecl := ⟨"Area", none, [], [], true, default, none⟩
  let shape (name : String) : Facts.TypeDecl := ⟨name, "p", [], [area], true, default⟩
  { Facts.Project.empty with
    packages := [⟨"p", "p", "", [], [], [shape "Circle", shape "Square"], [shape "Shape"], []⟩] }

/-- An oracle that knows of one of the two. -/
def knowsCircle : Oracle := ⟨fun _ _ => ⟨0, 0, .answers ["Circle"]⟩⟩

theorem matchWithOracle_strategies_apart_twoShapes :
    (matchWithOracle ⟨1, 1, none, 1⟩ knowsCircle twoShapes .initial).1.fallback = none ∧
    ∃ found : List Pairing, ⟨0, 0, .oracle⟩ ∈ found ∧ ⟨1, 0, .heuristic⟩ ∈ found ∧
      List.Forall₂ (Pairing.Realizes 1 (structs twoShapes) (interfaces twoShapes)) found
        (matchWithOracle ⟨1, 1, none, 1⟩ knowsCircle twoShapes .initial).1.implementations := by
  have kept : (matchWithOracle ⟨1, 1, none, 1⟩ knowsCircle twoShapes .initial).1.fallback = none := rfl
  obtain ⟨-, found, realized, -, named, -, other, -⟩ :=
    (matchWithOracle_strategies_apart ⟨1, 1, none, 1⟩ knowsCircle twoShapes .initial).2.1 kept
  have first : ⟨0, 0, .oracle⟩ ∈ found := by
    rw [named]
    exact ⟨_, _, "Circle", rfl, by decide, rfl, by decide, ⟨_, rfl, rfl⟩, by simp⟩
  have silent : ∀ i, ⟨1, i, .oracle⟩ ∉ found := by
    intro i mem
    obtain ⟨_, types, name, -, -, answered, mem, ⟨s, here, same⟩, before⟩ := (named 1 i).mp mem
    cases answered
    obtain rfl : name = "Circle" := by simpa using mem
    exact before 0 (by decide) _ rfl rfl
  exact ⟨kept, found, first, (other 1 silent 0).mpr (by decide), realized⟩

end ArchAtlas.Matching
