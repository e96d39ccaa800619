import ArchAtlas.Flow.Trace
import ArchAtlas.Proofs.Distinct

namespace ArchAtlas.Flow

/-- The bodies of a name, package by package: those of the functions of that name, and then for each
struct that of its first method of that name. -/
def bodiesNamed (p : Facts.Project) (name : String) : List Facts.Body :=
  p.packages.flatMap fun pkg =>
    (pkg.functions.filter fun f => f.name = name).filterMap Facts.FuncDecl.body ++
      pkg.structs.filterMap fun s => (s.methods.find? fun m => m.name = name).bind Facts.FuncDecl.body

def calleesOf (p : Facts.Project) (name : String) : List String :=
  (bodiesNamed p name).flatMap fun b => b.calls.map Facts.Call.qualifiedName

/-- The name is what follows the last point of a text, or the whole text where it has no point. -/
def EndsIn (text name : String) : Prop :=
  '.' ∉ name.toList ∧ (text = name ∨ ∃ front, text = front ++ "." ++ name)

theorem endsIn_lastPart (text : String) : EndsIn text (lastPart text) := by
  unfold lastPart Text.afterLast
  split
  · rename_i front back cut
    obtain ⟨letters, last⟩ := Text.eq_of_splitLast? cut
    refine ⟨by simpa using last, Or.inr ⟨String.ofList front, ?_⟩⟩
    exact String.toList_inj.mp (by simp [letters])
  · rename_i whole
    refine ⟨?_, Or.inl String.ofList_toList.symm⟩
    simpa using Text.splitLast?_eq_none_iff.mp whole

/-- Of the methods that are the first of their name, at most one has a given name: the first that the
type has, unless the name was seen before. -/
theorem filter_firstMethods (name : String) (seen : List String) (methods : List Facts.FuncDecl) :
    ((firstMethods seen methods).filter fun m => m.name = name) =
      if name ∈ seen then [] else (methods.find? fun m => m.name = name).toList := by
  induction methods generalizing seen with
  | nil => simp [firstMethods]
  | cons m rest ih =>
    rw [firstMethods]
    by_cases here : m.name = name
    · by_cases old : name ∈ seen
      · simp [here, old, ih]
      · simp [here, old, ih]
    · by_cases old : m.name ∈ seen
      · simp [here, old, ih]
      · simp [here, old, ih, Ne.symm here]

namespace BodyIndex

theorem bodies_append (front back : BodyIndex) (name : String) :
    bodies (front ++ back) name = front.bodies name ++ back.bodies name :=
  List.filterMap_append

theorem bodies_flatMap {α : Type} (items : List α) (part : α → BodyIndex) (name : String) :
    bodies (items.flatMap part) name = items.flatMap fun x => (part x).bodies name :=
  List.filterMap_flatMap

theorem bodies_filterMap (functions : List Facts.FuncDecl) (name : String) :
    bodies (functions.filterMap namedBody?) name =
      (functions.filter fun f => f.name = name).filterMap Facts.FuncDecl.body := by
  induction functions with
  | nil => rfl
  | cons f rest ih =>
    unfold bodies at ih ⊢
    cases body : f.body with
    | none => by_cases here : f.name = name <;> simp [namedBody?, body, here, ih]
    | some b => by_cases here : f.name = name <;> simp [namedBody?, body, here, ih]

theorem bodies_methods (structs : List Facts.TypeDecl) (name : String) :
    bodies (structs.flatMap fun s => (firstMethods [] s.methods).filterMap namedBody?) name =
      structs.filterMap fun s => (s.methods.find? fun m => m.name = name).bind Facts.FuncDecl.body := by
  rw [bodies_flatMap, List.filterMap_eq_flatMap_toList]
  refine List.flatMap_congr fun s _ => ?_
  rw [bodies_filterMap, filter_firstMethods, if_neg List.not_mem_nil]
  cases s.methods.find? fun m => m.name = name with
  | none => rfl
  | some m => cases body : m.body <;> simp [body]

/-- The index has the bodies of each name that a pass through the project finds. -/
theorem bodies_build (p : Facts.Project) (name : String) :
    (build p).bodies name = bodiesNamed p name := by
  rw [build, bodies_flatMap]
  refine List.flatMap_congr fun pkg _ => ?_
  rw [bodies_append, bodies_filterMap, bodies_methods]

end BodyIndex

variable {ρ : Type} [Regex ρ]

theorem trace_of_anonymous {filter : NoiseFilter ρ} {confidence : Float} {index : BodyIndex}
    {e : EntryPoint} (anonymous : e.handler = "") : trace filter confidence index e = [] := by
  simp [trace, EntryPoint.isAnonymous, anonymous]

/-- Callees are kept once before noise is left out; the other way round gives the same. -/
theorem trace_of_named {filter : NoiseFilter ρ} {confidence : Float} {p : Facts.Project}
    {e : EntryPoint} (named : e.handler ≠ "") :
    trace filter confidence (BodyIndex.build p) e =
      ((calleesOf p (lastPart e.handler)).filter fun t => !filter.isNoise t).eraseDups.map
        fun target => ⟨e.handler, target, .direct, confidence⟩ := by
  have known : e.isAnonymous = false := by simpa [EntryPoint.isAnonymous] using named
  rw [trace, known, BodyIndex.bodies_build, ← filter_eraseDups]
  rfl

/-- The chain of an entry point with a handler is made of what the bodies of its name call, without the
noise and each callee once: the name is the last part of the handler's, and the bodies are those of the
functions of that name and of the first method of that name of each struct, package by package. Every
call comes from the handler, no two go to one callee, and without a handler there is none. -/
theorem trace_is_scan (filter : NoiseFilter ρ) (confidence : Float) (p : Facts.Project) (e : EntryPoint) :
    let calls := trace filter confidence (BodyIndex.build p) e
    (e.handler ≠ "" → ∃ name, EndsIn e.handler name ∧
      calls = ((calleesOf p name).filter fun t => !filter.isNoise t).eraseDups.map
        fun target => ⟨e.handler, target, .direct, confidence⟩) ∧
    (∀ c ∈ calls, c.source = e.handler) ∧
    (calls.map CallEdge.target).Nodup ∧
    (e.handler = "" → calls = []) := by
  intro calls
  by_cases anonymous : e.handler = ""
  · have none : calls = [] := trace_of_anonymous anonymous
    simp [none, anonymous]
  · have made : calls = ((calleesOf p (lastPart e.handler)).filter fun t =>
        !filter.isNoise t).eraseDups.map fun target => ⟨e.handler, target, .direct, confidence⟩ :=
      trace_of_named anonymous
    refine ⟨fun _ => ⟨lastPart e.handler, endsIn_lastPart e.handler, made⟩, ?_, ?_, ?_⟩
    · intro c mem
      rw [made] at mem
      obtain ⟨target, -, rfl⟩ := List.mem_map.mp mem
      rfl
    · rw [made, List.map_map]
      exact (List.map_id _).symm ▸ nodup_eraseDups _
    · exact fun empty => absurd empty anonymous

/-- Functions and methods of one name; one struct has two methods of it, the first without a body. -/
def listing : Facts.Project :=
  let span : Span := ⟨"list.go", 1, 9⟩
  let call (package : Option String) (name : String) : Facts.Call := ⟨name, package, none, [], span⟩
  let function (calls : Option (List Facts.Call)) : Facts.FuncDecl :=
    ⟨"List", none, [], [], true, span, calls.map fun calls => ⟨calls, [], []⟩⟩
  let struct (name : String) (methods : List Facts.FuncDecl) : Facts.TypeDecl :=
    ⟨name, "", [], methods, true, span⟩
  let find := call (some "repo") "Find"
  { Facts.Project.empty with
    packages :=
      [⟨"1", "api", "api", [], [],
          [struct "Stub" [function none, function (some [call none "hidden"])],
            struct "Handler" [function (some [call none "render", find])]], [],
          [function (some [call (some "fmt") "Sprintf", find, find])]⟩,
        ⟨"2", "jobs", "jobs", [], [], [], [],
          [function (some [call (some "") "len", call (some "audit") "Log", find])]⟩] }

theorem trace_is_scan_listing :
    let filter : NoiseFilter Pattern := ⟨Config.Noise.default, []⟩
    let e : EntryPoint :=
      ⟨"entry-api-3", "http-handler", "http", none, "net/http", "/", "h.List", [], none, ⟨"r.go", 3⟩⟩
    let calls := trace filter Confidence.directCall (BodyIndex.build listing) e
    e.handler ≠ "" ∧
    (∃ name, EndsIn e.handler name ∧
      calls = ((calleesOf listing name).filter fun t => !filter.isNoise t).eraseDups.map
        fun target => ⟨e.handler, target, .direct, Confidence.directCall⟩) ∧
    calls.map CallEdge.target = ["repo.Find", "render", "audit.Log"] := by
  intro filter e calls
  have named : e.handler ≠ "" := by decide
  exact ⟨named, (trace_is_scan filter Confidence.directCall listing e).1 named, by decide⟩

end ArchAtlas.Flow
