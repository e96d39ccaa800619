import ArchAtlas.Proofs.Flow.Attribution
import Mathlib.Data.List.Forall2

namespace ArchAtlas.Flow

/-! ## Sources -/

inductive Source where
  | call (p : Facts.Package) (c : Facts.Call)
  | main (p : Facts.Package) (f : Facts.FuncDecl)
  | manual (m : Config.ManualEntry)

/-- A registration that is looked for has the shape of a call. -/
def IsRegistration (detected : Frameworks) (custom : List Config.Framework) (c : Facts.Call) : Prop :=
  ∃ place a, Listed detected custom place a ∧ a.registration.Matches c

theorem isRegistration_iff {detected : Frameworks} {custom : List Config.Framework} {c : Facts.Call} :
    ((active detected custom).any fun a => a.registration.fits c) = true ↔
      IsRegistration detected custom c := by
  simp only [← map_snd_ranked, List.any_map, List.any_eq_true, Function.comp_apply,
    Registration.fits_iff, IsRegistration, ← mem_ranked]
  exact Prod.exists

instance (detected : Frameworks) (custom : List Config.Framework) :
    DecidablePred (IsRegistration detected custom) :=
  fun _ => decidable_of_iff _ isRegistration_iff

def callsIn (f : Facts.FuncDecl) : List Facts.Call :=
  f.body.elim [] Facts.Body.calls

/-- The calls of a package: those of its functions, then those of the methods of its structs. -/
def callsOf (p : Facts.Package) : List Facts.Call :=
  p.functions.flatMap callsIn ++ p.structs.flatMap fun s => s.methods.flatMap callsIn

section

variable (detected : Frameworks) (custom : List Config.Framework)

/-- The sources in a package: the calls that register something, then the main functions if main
functions count and the package is a program. -/
def sourcesOf (p : Facts.Package) : List Source :=
  ((callsOf p).filter fun c => IsRegistration detected custom c).map (.call p) ++
    if "main" ∈ detected.keys ∧ p.name = "main" then
      (p.functions.filter fun f => f.name = "main").map (.main p)
    else []

/-- The sources in a project: those in its packages, then what is declared by hand. -/
def sources (manual : List Config.ManualEntry) (p : Facts.Project) : List Source :=
  p.packages.flatMap (sourcesOf detected custom) ++ manual.map .manual

end

/-! ## What a source gives -/

/-- The entry point of a source, with the id it would have alone. -/
def Source.entry? (patterns : List ActiveRegistration) : Source → Option EntryPoint
  | .call p c => ofCall? patterns p c
  | .main p f => some (ofMain p f)
  | .manual m => some (ofManual m)

/-- An entry point is that of a source, under an id of its own. -/
def Made (patterns : List ActiveRegistration) (s : Source) (e : EntryPoint) : Prop :=
  ∃ bare, s.entry? patterns = some bare ∧ e = { bare with id := e.id }

/-- A text in one pair of equal quotes, without a quote at its own ends. -/
inductive Wraps (arg text : String) : Prop where
  | intro (q : Char) (quote : isQuote q = true)
      (wrapped : arg = String.singleton q ++ text ++ String.singleton q)
      (first : ∀ c ∈ text.toList.head?, isQuote c = false)
      (last : ∀ c ∈ text.toList.getLast?, isQuote c = false)

theorem isBlank_of_isQuote {q : Char} (quote : isQuote q = true) : Text.isBlank q = false := by
  simp only [isQuote, Bool.or_eq_true, decide_eq_true_eq] at quote
  rcases quote with (rfl | rfl) | rfl <;> decide

theorem unquoted_of_wraps {arg text : String} (h : Wraps arg text) : unquoted arg = text := by
  obtain ⟨q, quote, rfl, first, last⟩ := h
  have solid := isBlank_of_isQuote quote
  have letters : (String.singleton q ++ text ++ String.singleton q).toList =
      q :: (text.toList ++ [q]) := by simp
  have trimmed : Text.trim (q :: (text.toList ++ [q])) = q :: (text.toList ++ [q]) := by
    have ends : (q :: (text.toList ++ [q])).getLast? = some q := by
      rw [← List.cons_append, List.getLast?_concat]
    rw [Text.trim, Text.trimStart_eq_self rfl solid, Text.trimEnd_eq_self ends solid]
  have opened : (q :: (text.toList ++ [q])).dropWhile isQuote =
      (text.toList ++ [q]).dropWhile isQuote := by simp [quote]
  have closed : Text.dropEndWhile isQuote ((text.toList ++ [q]).dropWhile isQuote) = text.toList := by
    cases start : text.toList with
    | nil => simp [quote, Text.dropEndWhile]
    | cons c rest =>
      rw [start] at first last
      rw [Text.dropWhile_eq_self (by simpa using first),
        Text.dropEndWhile_append_of_all (by simpa using quote), Text.dropEndWhile_eq_self last]
  rw [unquoted, letters, trimmed, opened, closed, String.ofList_toList]

/-! ## Every entry point at the place of its source -/

theorem forall₂_filterMap {α β : Type} (f : α → Option β) (items : List α) :
    List.Forall₂ (fun x y => f x = some y) (items.filter fun x => (f x).isSome) (items.filterMap f) := by
  induction items with
  | nil => exact .nil
  | cons x items ih =>
    cases value : f x with
    | none => simpa [value] using ih
    | some y => simpa [value] using ih

/-- Numbering goes through entry points one by one and gives each another id. -/
theorem numberIds_made {patterns : List ActiveRegistration} {sources : List Source}
    {bare : List EntryPoint} (given : List.Forall₂ (fun s e => s.entry? patterns = some e) sources bare)
    (seen : List String) : List.Forall₂ (Made patterns) sources (numberIds seen bare) := by
  induction given generalizing seen with
  | nil => exact .nil
  | @cons s e sources bare here _ ih =>
    rw [numberIds]
    exact .cons ⟨e, here, rfl⟩ (ih (e.id :: seen))

section

variable {detected : Frameworks} {custom : List Config.Framework}

theorem ofCall?_isSome (p : Facts.Package) (c : Facts.Call) :
    (ofCall? (active detected custom) p c).isSome = decide (IsRegistration detected custom c) := by
  rw [ofCall?, Option.isSome_map, Bool.eq_iff_iff, decide_eq_true_eq, ← isRegistration_iff,
    List.find?_isSome, List.any_eq_true]

theorem calls_given (p : Facts.Package) :
    List.Forall₂ (fun (s : Source) e => s.entry? (active detected custom) = some e)
      (((callsOf p).filter fun c => IsRegistration detected custom c).map (Source.call p))
      (p.bodies.flatMap fun (_, _, b) => b.calls.filterMap (ofCall? (active detected custom) p)) := by
  have calls : (p.bodies.flatMap fun (_, _, b) =>
      b.calls.filterMap (ofCall? (active detected custom) p)) =
      (callsOf p).filterMap (ofCall? (active detected custom) p) := by
    have within (f : Facts.FuncDecl) : (callsIn f).filterMap (ofCall? (active detected custom) p) =
        f.body.elim [] fun b => b.calls.filterMap (ofCall? (active detected custom) p) := by
      cases body : f.body <;> simp [callsIn, body]
    simp only [Facts.Package.flatMap_bodies, callsOf, List.filterMap_append, List.filterMap_flatMap,
      within]
  rw [calls, List.forall₂_map_left_iff]
  simp only [← ofCall?_isSome p]
  exact forall₂_filterMap _ _

theorem sourcesOf_given (p : Facts.Package) :
    List.Forall₂ (fun (s : Source) e => s.entry? (active detected custom) = some e)
      (sourcesOf detected custom p)
      (ofPackage (active detected custom) (detected.contains "main") p) := by
  refine List.rel_append (calls_given p) ?_
  have counts : (detected.contains "main" && decide (p.name = "main")) = true ↔
      "main" ∈ detected.keys ∧ p.name = "main" := by
    simp [Frameworks.contains]
  by_cases program : "main" ∈ detected.keys ∧ p.name = "main"
  · rw [if_pos program, if_pos (counts.mpr program), List.forall₂_map_left_iff,
      List.forall₂_map_right_iff, List.forall₂_same]
    intro f _
    rfl
  · rw [if_neg program, if_neg (mt counts.mp program)]
    exact .nil

/-- Every entry point is made of the source at its place. -/
theorem entryPoints_made (detected : Frameworks) (custom : List Config.Framework)
    (manual : List Config.ManualEntry) (p : Facts.Project) :
    List.Forall₂ (Made (active detected custom)) (sources detected custom manual p)
      (entryPoints detected custom manual p) := by
  apply numberIds_made
  refine List.rel_append (List.rel_flatMap (List.forall₂_same.mpr fun _ _ => rfl) ?_) ?_
  · rintro pkg _ rfl
    exact sourcesOf_given pkg
  · rw [List.forall₂_map_left_iff, List.forall₂_map_right_iff, List.forall₂_same]
    intro m _
    rfl

/-- The entry point of a call, by the registration that the call is attributed to. -/
theorem Made.of_call {p : Facts.Package} {c : Facts.Call} {e : EntryPoint}
    (made : Made (active detected custom) (.call p c) e) :
    ∃ a, Attributed detected custom c a ∧ ∃ id, e =
      { id
        kind := EntryPoint.kindOf a.registration.protocol a.registration.httpMethod
        protocol := a.registration.protocol
        method := a.registration.httpMethod
        framework := a.framework
        path := (c.args[a.registration.pathArg]?).elim "" unquoted
        handler := (c.args[a.registration.handlerArg]?).elim "" handlerName
        middleware := []
        package := some p.fullName
        location := c.location.place } := by
  obtain ⟨_, given, same⟩ := made
  obtain ⟨a, found, rfl⟩ := Option.map_eq_some_iff.mp given
  exact ⟨a, find?_active.mp found, e.id, same⟩

end

/-! ## What an entry point says of its source -/

/-- An entry point says of a call which registration it has the shape of, where it is and, where the
path stands in quotes, the path. -/
structure SaysOfCall (a : ActiveRegistration) (p : Facts.Package) (c : Facts.Call) (e : EntryPoint) :
    Prop where
  framework : e.framework = a.framework
  protocol : e.protocol = a.registration.protocol
  method : e.method = a.registration.httpMethod
  path : ∀ arg path, c.args[a.registration.pathArg]? = some arg → Wraps arg path → e.path = path
  package : e.package = some p.fullName
  location : e.location = c.location.place

/-- What an entry point says of its source; of a call, by the registration it is attributed to. -/
def Says (detected : Frameworks) (custom : List Config.Framework) : Source → EntryPoint → Prop
  | .call p c, e => ∃ a, Attributed detected custom c a ∧ SaysOfCall a p c e
  | .main p f, e =>
    e.framework = "main" ∧ e.protocol = "cli" ∧ e.method = none ∧ e.handler = "main.main" ∧
      e.package = some p.fullName ∧ e.location = f.location.place
  | .manual m, e =>
    e.framework = "manual" ∧ e.protocol = m.protocol ∧ e.method = none ∧ e.handler = m.function ∧
      e.package = none

theorem Made.says {detected : Frameworks} {custom : List Config.Framework} {s : Source} {e : EntryPoint}
    (made : Made (active detected custom) s e) : Says detected custom s e := by
  cases s with
  | call p c =>
    obtain ⟨a, attributed, id, rfl⟩ := made.of_call
    refine ⟨a, attributed, rfl, rfl, rfl, ?_, rfl, rfl⟩
    intro arg path here wraps
    simp only [here, Option.elim_some]
    exact unquoted_of_wraps wraps
  | main p f =>
    obtain ⟨_, given, same⟩ := made
    obtain rfl := Option.some.inj given
    rw [same]
    exact ⟨rfl, rfl, rfl, rfl, rfl, rfl⟩
  | manual m =>
    obtain ⟨_, given, same⟩ := made
    obtain rfl := Option.some.inj given
    rw [same]
    exact ⟨rfl, rfl, rfl, rfl, rfl⟩

/-- The entry points of a project are those of its sources, one for each and in order. Within a package
these are the calls, of functions and then of methods, that some registration has the shape of, and then
the main functions of a program; what is declared by hand comes after all packages. The entry point of a
call has the framework, the protocol and the HTTP method of the registration with the least place, and
its path without the quotes around it. -/
theorem entries_from_sources (detected : Frameworks) (custom : List Config.Framework)
    (manual : List Config.ManualEntry) (p : Facts.Project) :
    List.Forall₂ (Says detected custom) (sources detected custom manual p)
      (entryPoints detected custom manual p) :=
  (entryPoints_made detected custom manual p).imp fun _ _ made => made.says

/-- A server with a router of its own, one of the standard library and one of the user's framework. -/
def router : Facts.Project :=
  let span : Span := ⟨"main.go", 1, 9⟩
  let call (name : String) (receiver : Option String) (args : List String) : Facts.Call :=
    ⟨name, none, receiver, args, span⟩
  { Facts.Project.empty with
    packages := [{
      id := "1", name := "main", fullName := "cmd", sourceFiles := [], imports := [], interfaces := []
      structs := [⟨"S", "main", [], [⟨"routes", none, [], [], false, span,
        some ⟨[call "Register" none ["jobs"]], [], []⟩⟩], true, span⟩]
      functions := [⟨"main", none, [], [], false, span, some
        ⟨[call "HandleFunc" (some "*mux.Router") ["\"/users\"", "list"],
          call "HandleFunc" (some "*http.ServeMux") ["'/health'", "check"],
          call "Println" none ["\"up\""]], [], []⟩⟩] }] }

theorem entries_from_sources_router :
    let detected : Frameworks := ⟨["net/http", "gorilla/mux", "main"]⟩
    let custom : List Config.Framework := [⟨"jobs", "rpc", [⟨none, some "ister", none, none, none⟩]⟩]
    let manual : List Config.ManualEntry := [⟨"worker.Run", "message"⟩]
    let entries := entryPoints detected custom manual router
    List.Forall₂ (Says detected custom) (sources detected custom manual router) entries ∧
    entries.map EntryPoint.framework = ["gorilla/mux", "net/http", "jobs", "main", "manual"] ∧
    entries.map EntryPoint.path = ["/users", "/health", "jobs", "", ""] := by
  intro detected custom manual entries
  exact ⟨entries_from_sources detected custom manual router, by decide, by decide⟩

end ArchAtlas.Flow
