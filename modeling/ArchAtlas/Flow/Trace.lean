import ArchAtlas.Config.Validation
import ArchAtlas.Flow.Entry

/-!
Call chains: the direct calls of a handler, each callee once, without noise. A handler is found by the
last part of its name, so that a name with a receiver is found too.
-/

namespace ArchAtlas.Flow

/-- What decides whether a callee is noise, by regular expressions of some kind. -/
structure NoiseFilter (ρ : Type) where
  noise : Config.Noise
  accessors : List ρ
  deriving DecidableEq, Repr

variable {ρ : Type} [Regex ρ]

def NoiseFilter.ofConfig (n : Config.Noise) : Except Config.Error (NoiseFilter ρ) :=
  n.patterns.map fun accessors => ⟨n, accessors⟩

/-- Whether a callee is noise: a builtin, a call into a package or on an object that is left out, or a
match of a regular expression. -/
def NoiseFilter.isNoise (f : NoiseFilter ρ) (target : String) : Bool :=
  f.noise.builtins.contains target ||
    (match Text.splitFirst? '.' target.toList with
      | some (qualifier, _) =>
        !qualifier.isEmpty && f.noise.stdlibPrefixes.contains (String.ofList qualifier)
      | none => false) ||
    (f.noise.infrastructurePrefixes.any fun start => Text.startsWith target start) ||
    f.accessors.any fun p => Regex.isMatch p target

/-- The bodies of functions and methods with their names, in order. -/
abbrev BodyIndex := List (String × Facts.Body)

/-- The methods of a type that are the first of their name. -/
def firstMethods (seen : List String) : List Facts.FuncDecl → List Facts.FuncDecl
  | [] => []
  | m :: rest =>
    if m.name ∈ seen then firstMethods seen rest else m :: firstMethods (m.name :: seen) rest

def namedBody? (f : Facts.FuncDecl) : Option (String × Facts.Body) :=
  f.body.map fun b => (f.name, b)

/-- For each package its functions, and then for each struct the first method of each name; those
without a body are left out. -/
def BodyIndex.build (p : Facts.Project) : BodyIndex :=
  p.packages.flatMap fun pkg =>
    pkg.functions.filterMap namedBody? ++
      pkg.structs.flatMap fun s => (firstMethods [] s.methods).filterMap namedBody?

def BodyIndex.bodies (index : BodyIndex) (name : String) : List Facts.Body :=
  index.filterMap fun (n, b) => if n = name then some b else none

/-- The last part of a dotted name. -/
def lastPart (name : String) : String :=
  String.ofList (Text.afterLast '.' name.toList)

/-- The direct calls of an entry point's handler, each callee once, without noise. -/
def trace (filter : NoiseFilter ρ) (confidence : Float) (index : BodyIndex) (e : EntryPoint) :
    List CallEdge :=
  if e.isAnonymous then []
  else
    let callees := (index.bodies (lastPart e.handler)).flatMap fun b =>
      b.calls.map Facts.Call.qualifiedName
    (callees.eraseDups.filter fun t => !filter.isNoise t).map fun target =>
      ⟨e.handler, target, .direct, confidence⟩

def chain (filter : NoiseFilter ρ) (confidence : Float) (index : BodyIndex) (e : EntryPoint) :
    CallChain :=
  ⟨"chain-" ++ e.id, e.id, trace filter confidence index e⟩

end ArchAtlas.Flow
