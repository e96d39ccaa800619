import ArchAtlas.Flow.Framework

/-!
Finding entry points: the calls that register one, the main function of a program, and those declared
by hand. Ids are made from the place of an entry point; where two would be equal, the later gets the
number of its occurrence.
-/

namespace ArchAtlas.Flow

def isQuote (c : Char) : Bool :=
  c = '"' || c = '\x60' || c = '\''

/-- An argument without the blanks and quotes around it. -/
def unquoted (arg : String) : String :=
  String.ofList (Text.dropEndWhile isQuote ((Text.trim arg.toList).dropWhile isQuote))

def trimmed (arg : String) : String :=
  String.ofList (Text.trim arg.toList)

/-- Whether an argument is a function written in place. -/
def isInline (arg : String) : Bool :=
  Text.startsWith arg "func(" || Text.startsWith arg "func " || Text.startsWith arg "function" ||
    Text.contains arg "=>" || Text.startsWith arg "lambda"

/-- The name of a handler in an argument; empty for a function written in place. -/
def handlerName (arg : String) : String :=
  let arg := trimmed arg
  if isInline arg then "" else arg

/-- The entry point that a call registers, with the id it would have alone. -/
def ofCall? (patterns : List ActiveRegistration) (p : Facts.Package) (c : Facts.Call) :
    Option EntryPoint :=
  (patterns.find? fun a => a.registration.fits c).map fun a =>
    let r := a.registration
    { id := "entry-" ++ p.fullName ++ "-" ++ toString c.location.startLine.toNat
      kind := EntryPoint.kindOf r.protocol r.httpMethod
      protocol := r.protocol
      method := r.httpMethod
      framework := a.framework
      path := (c.args[r.pathArg]?).elim "" unquoted
      handler := (c.args[r.handlerArg]?).elim "" handlerName
      middleware := []
      package := some p.fullName
      location := c.location.place }

/-- The main function of a program. -/
def ofMain (p : Facts.Package) (f : Facts.FuncDecl) : EntryPoint where
  id := "entry-" ++ p.fullName ++ "-main"
  kind := EntryPoint.kindOf "cli" none
  protocol := "cli"
  method := none
  framework := "main"
  path := ""
  handler := "main.main"
  middleware := []
  package := some p.fullName
  location := f.location.place

/-- A text with everything but letters and digits of ASCII replaced. -/
def slug (s : String) : String :=
  String.ofList (s.toList.map fun c => if c.isAlphanum then c else '_')

/-- An entry point declared by hand. -/
def ofManual (m : Config.ManualEntry) : EntryPoint where
  id := "entry-manual-" ++ slug m.function
  kind := EntryPoint.kindOf m.protocol none
  protocol := m.protocol
  method := none
  framework := "manual"
  path := ""
  handler := m.function
  middleware := []
  package := none
  location := ⟨"manual", 0⟩

/-- The entry points of a package: the calls in its bodies, then its main functions if those count. -/
def ofPackage (patterns : List ActiveRegistration) (withMain : Bool) (p : Facts.Package) :
    List EntryPoint :=
  let calls := p.bodies.flatMap fun (_, _, b) => b.calls.filterMap (ofCall? patterns p)
  let mains :=
    if withMain && p.name = "main" then (p.functions.filter fun f => f.name = "main").map (ofMain p)
    else []
  calls ++ mains

/-- Makes ids differ: the second occurrence of an id gets the number 2, and so on. -/
def numberIds (seen : List String) : List EntryPoint → List EntryPoint
  | [] => []
  | e :: rest =>
    let n := seen.count e.id
    let id := if n = 0 then e.id else e.id ++ "-" ++ toString (n + 1)
    { e with id } :: numberIds (e.id :: seen) rest

/-- The entry points of a project. -/
def entryPoints (detected : Frameworks) (custom : List Config.Framework)
    (manual : List Config.ManualEntry) (p : Facts.Project) : List EntryPoint :=
  let found := p.packages.flatMap (ofPackage (active detected custom) (detected.contains "main"))
  numberIds [] (found ++ manual.map ofManual)

end ArchAtlas.Flow
