import ArchAtlas.Proofs.Flow.Sources
import ArchAtlas.Proofs.Flow.Trace
import ArchAtlas.Proofs.TypeName

namespace ArchAtlas.Flow

open ArchAtlas.TypeName (Identifier isIdentifierRest rest_of_mem)

/-! ## Dotted names -/

/-- An identifier with qualifiers, all joined by points. -/
structure DottedName where
  qualifiers : List Identifier
  name : Identifier

namespace DottedName

def spell (n : DottedName) : List Char :=
  n.qualifiers.foldr (fun q rest => q.text.toList ++ '.' :: rest) n.name.text.toList

def text (n : DottedName) : String := String.ofList n.spell

variable (n : DottedName)

theorem toList_text : n.text.toList = n.spell := String.toList_ofList

theorem mem_spell {c : Char} (mem : c ∈ n.spell) : isIdentifierRest c = true ∨ c = '.' := by
  obtain ⟨qualifiers, name⟩ := n
  induction qualifiers with
  | nil => exact Or.inl (rest_of_mem name.wellFormed mem)
  | cons q qualifiers ih =>
    rcases List.mem_append.mp mem with mem | mem
    · exact Or.inl (rest_of_mem q.wellFormed mem)
    · rcases List.mem_cons.mp mem with rfl | mem
      · exact Or.inr rfl
      · exact ih mem

theorem not_mem_text {c : Char} (other : isIdentifierRest c = false) (point : c ≠ '.') :
    c ∉ n.text.toList := by
  intro mem
  rw [toList_text] at mem
  rcases n.mem_spell mem with rest | same
  · rw [rest] at other
    cases other
  · exact point same

/-- The last part of a name stands at its end, behind a point unless it is the whole name. -/
theorem endsIn_text : EndsIn n.text n.name.text := by
  refine ⟨n.name.not_mem rfl, ?_⟩
  obtain ⟨qualifiers, name⟩ := n
  induction qualifiers with
  | nil => exact Or.inl String.ofList_toList
  | cons q qualifiers ih =>
    have longer : text ⟨q :: qualifiers, name⟩ = q.text ++ "." ++ text ⟨qualifiers, name⟩ := by
      apply String.toList_inj.mp
      simp [toList_text, spell]
    rw [longer]
    rcases ih with whole | ⟨front, behind⟩
    · exact Or.inr ⟨q.text, by rw [whole]⟩
    · exact Or.inr ⟨q.text ++ "." ++ front, by rw [behind]; simp only [String.append_assoc]⟩

theorem text_ne_empty : n.text ≠ "" := by
  intro empty
  rcases n.endsIn_text.2 with whole | ⟨front, behind⟩
  · exact n.name.ne_nil (by rw [← whole, empty]; rfl)
  · have letters := congrArg String.toList (empty.symm.trans behind)
    simp at letters

end DottedName

theorem lastPart_of_endsIn {text name : String} (ends : EndsIn text name) : lastPart text = name := by
  obtain ⟨last, rfl | ⟨front, rfl⟩⟩ := ends
  · rw [lastPart, Text.afterLast, Text.splitLast?_eq_none_iff.mpr last]
    exact String.ofList_toList
  · have letters : (front ++ "." ++ name).toList = front.toList ++ '.' :: name.toList := by simp
    rw [lastPart, Text.afterLast, letters, Text.splitLast?_append last]
    exact String.ofList_toList

theorem lastPart_text (n : DottedName) : lastPart n.text = n.name.text :=
  lastPart_of_endsIn n.endsIn_text

/-! ## Names and functions written in place -/

/-- The two words that are looked for without what follows them in a function. -/
def TakenForFunction (n : DottedName) : Prop :=
  (∃ rest, n.text = "function" ++ rest) ∨ ∃ rest, n.text = "lambda" ++ rest

/-- The other marks of a function have a character that no name has. -/
theorem isInline_text (n : DottedName) : isInline n.text = true ↔ TakenForFunction n := by
  simp only [isInline, Bool.or_eq_true, Text.startsWith_iff, Text.contains_iff]
  constructor
  · rintro ((((⟨rest, same⟩ | ⟨rest, same⟩) | word) | ⟨front, back, same⟩) | word)
    · exact absurd (by simp [same]) (n.not_mem_text (c := '(') rfl (by decide))
    · exact absurd (by simp [same]) (n.not_mem_text (c := ' ') rfl (by decide))
    · exact Or.inl word
    · exact absurd (by simp [same]) (n.not_mem_text (c := '=') rfl (by decide))
    · exact Or.inr word
  · rintro (word | word)
    · exact Or.inl (Or.inl (Or.inr word))
    · exact Or.inr word

instance : DecidablePred TakenForFunction := fun n => decidable_of_iff _ (isInline_text n)

theorem handlerName_of_taken {arg : String} {n : DottedName} (named : trimmed arg = n.text)
    (taken : TakenForFunction n) : handlerName arg = "" := by
  rw [handlerName, named, if_pos ((isInline_text n).mpr taken)]

theorem handlerName_of_not_taken {arg : String} {n : DottedName} (named : trimmed arg = n.text)
    (free : ¬ TakenForFunction n) : handlerName arg = n.text := by
  rw [handlerName, named, if_neg (mt (isInline_text n).mp free)]

/-! ## The handlers of entry points -/

/-- A call has a dotted name where the registration that it is attributed to has the handler. -/
inductive Hands (detected : Frameworks) (custom : List Config.Framework) : Source → DottedName → Prop where
  | call {p : Facts.Package} {c : Facts.Call} {a : ActiveRegistration} {arg : String} {n : DottedName}
      (attributed : Attributed detected custom c a)
      (given : c.args[a.registration.handlerArg]? = some arg) (named : trimmed arg = n.text) :
      Hands detected custom (.call p c) n

theorem handler_of_hands {detected : Frameworks} {custom : List Config.Framework} {s : Source}
    {n : DottedName} {e : EntryPoint} (made : Made (active detected custom) s e)
    (hands : Hands detected custom s n) : ∃ arg, trimmed arg = n.text ∧ e.handler = handlerName arg := by
  cases hands with
  | @call p c a arg n attributed given named =>
    obtain ⟨a', attributed', id, rfl⟩ := made.of_call
    obtain rfl := attributed.unique attributed'
    exact ⟨arg, named, by simp only [given, Option.elim_some]⟩

/-- An entry point has a name for its handler, and its chain is that of the bodies of the name's last
part. -/
structure Keeps (p : Facts.Project) (n : DottedName) (e : EntryPoint) : Prop where
  handler : e.handler = n.text
  named : e.isAnonymous = false
  traced : ∀ {ρ : Type} [Regex ρ] (filter : NoiseFilter ρ) (confidence : Float),
    trace filter confidence (BodyIndex.build p) e = ((calleesOf p n.name.text).filter fun t => !filter.isNoise t).eraseDups.map
      fun target => ⟨n.text, target, .direct, confidence⟩

/-- An entry point has no handler, and no calls are traced from it. -/
structure Loses (p : Facts.Project) (e : EntryPoint) : Prop where
  handler : e.handler = ""
  anonymous : e.isAnonymous = true
  untraced : ∀ {ρ : Type} [Regex ρ] (filter : NoiseFilter ρ) (confidence : Float),
    trace filter confidence (BodyIndex.build p) e = []

theorem keeps_of_handler {p : Facts.Project} {n : DottedName} {e : EntryPoint}
    (handler : e.handler = n.text) : Keeps p n e := by
  have present : e.handler ≠ "" := handler ▸ n.text_ne_empty
  refine ⟨handler, by simpa [EntryPoint.isAnonymous] using present, ?_⟩
  intro ρ _ filter confidence
  rw [trace_of_named present, handler, lastPart_text]

theorem loses_of_handler {p : Facts.Project} {e : EntryPoint} (handler : e.handler = "") : Loses p e :=
  ⟨handler, by simp [EntryPoint.isAnonymous, handler], fun _ _ => trace_of_anonymous handler⟩

/-- Wherever a call hands over a function by a dotted name, the entry point at its place has that name
for its handler and the calls of that function for its chain, except for the names that start with
`function` or `lambda`: of those nothing is left. -/
theorem named_handler_kept (detected : Frameworks) (custom : List Config.Framework)
    (manual : List Config.ManualEntry) (p : Facts.Project) :
    List.Forall₂
      (fun s e => ∀ n, Hands detected custom s n →
        (¬ TakenForFunction n → Keeps p n e) ∧ (TakenForFunction n → Loses p e))
      (sources detected custom manual p) (entryPoints detected custom manual p) := by
  refine (entryPoints_made detected custom manual p).imp ?_
  intro s e made n hands
  obtain ⟨arg, named, handler⟩ := handler_of_hands made hands
  constructor
  · intro free
    exact keeps_of_handler (handler.trans (handlerName_of_not_taken named free))
  · intro taken
    exact loses_of_handler (handler.trans (handlerName_of_taken named taken))

def handing (path handler : String) : Facts.Call :=
  ⟨"HandleFunc", some "http", none, [path, handler], ⟨"api.go", 7, 7⟩⟩

/-- A package with two handlers, each of which calls one function. -/
def commandsPackage : Facts.Package :=
  let span : Span := ⟨"api.go", 1, 9⟩
  let function (name : String) (calls : List Facts.Call) : Facts.FuncDecl :=
    ⟨name, none, [], [], true, span, some ⟨calls, [], []⟩⟩
  { id := "1", name := "api", fullName := "api", sourceFiles := [], imports := [], structs := []
    interfaces := []
    functions :=
      [function "register" [handing "\"/run\"" "functionHandler", handing "\"/show\"" " api.show "],
        function "functionHandler" [⟨"start", some "jobs", none, [], span⟩],
        function "show" [⟨"load", some "jobs", none, [], span⟩]] }

def commands : Facts.Project := { Facts.Project.empty with packages := [commandsPackage] }

theorem hands_handing {path handler : String} {n : DottedName} (named : trimmed handler = n.text) :
    Hands ⟨["net/http"]⟩ [] (.call commandsPackage (handing path handler)) n :=
  .call (a := ⟨"net/http", .exact "HandleFunc" "http"⟩) (find?_active.mp rfl) rfl named

theorem sources_commands :
    sources ⟨["net/http"]⟩ [] [] commands =
      [.call commandsPackage (handing "\"/run\"" "functionHandler"),
        .call commandsPackage (handing "\"/show\"" " api.show ")] :=
  rfl

theorem entryPoints_commands :
    let entry (id path handler : String) : EntryPoint :=
      ⟨id, "http-handler", "http", none, "net/http", path, handler, [], some "api", ⟨"api.go", 7⟩⟩
    entryPoints ⟨["net/http"]⟩ [] [] commands =
      [entry "entry-api-7" "/run" "", entry "entry-api-7-2" "/show" "api.show"] := by
  decide

theorem named_handler_kept_show :
    let detected : Frameworks := ⟨["net/http"]⟩
    let name : DottedName := ⟨[⟨"api", by decide⟩], ⟨"show", by decide⟩⟩
    ∃ s e, (sources detected [] [] commands)[1]? = some s ∧
      (entryPoints detected [] [] commands)[1]? = some e ∧ Hands detected [] s name ∧
      ¬ TakenForFunction name ∧ Keeps commands name e ∧
      calleesOf commands name.name.text = ["jobs.load"] := by
  intro detected name
  have all := named_handler_kept detected [] [] commands
  rw [sources_commands, entryPoints_commands] at all ⊢
  obtain ⟨-, kept, -⟩ := by simpa only [List.forall₂_cons] using all
  have hands : Hands detected [] (.call commandsPackage (handing "\"/show\"" " api.show ")) name :=
    hands_handing (by decide)
  have free : ¬ TakenForFunction name := by decide
  exact ⟨_, _, rfl, rfl, hands, free, (kept name hands).1 free, by decide⟩

/-- The name of the other handler starts like a function, so the call that it makes is in no chain. -/
theorem named_handler_lost_functionHandler :
    let detected : Frameworks := ⟨["net/http"]⟩
    let name : DottedName := ⟨[], ⟨"functionHandler", by decide⟩⟩
    ∃ s e, (sources detected [] [] commands)[0]? = some s ∧
      (entryPoints detected [] [] commands)[0]? = some e ∧ Hands detected [] s name ∧
      e.handler ≠ name.text ∧ e.isAnonymous = true ∧
      calleesOf commands name.name.text = ["jobs.start"] ∧
      trace (ρ := Pattern) ⟨.disabled, []⟩ Confidence.directCall (BodyIndex.build commands) e = [] := by
  intro detected name
  rw [sources_commands, entryPoints_commands]
  have hands : Hands detected [] (.call commandsPackage (handing "\"/run\"" "functionHandler")) name :=
    hands_handing (by decide)
  exact ⟨_, _, rfl, rfl, hands, by decide, rfl, by decide, rfl⟩

end ArchAtlas.Flow
