import ArchAtlas.Flow.Build
import Mathlib.Data.List.Zip

namespace ArchAtlas.Flow

variable {ρ : Type}

def Builder.restrictTo (b : Builder ρ) (protocols : Option (List String)) : Builder ρ :=
  { b with config := { b.config with protocols } }

variable [Regex ρ]

theorem Builder.new_eq_ok_iff {config : Config.Flow} {b : Builder ρ} :
    Builder.new config = .ok b ↔
      b.config = config ∧ NoiseFilter.ofConfig config.noise = .ok b.filter := by
  obtain ⟨own, filter⟩ := b
  cases read : NoiseFilter.ofConfig (ρ := ρ) config.noise <;> simp [Builder.new, read, Except.map, eq_comm]

/-- The protocols are no part of what makes a configuration one that a builder is made of. -/
theorem Builder.new_restrictTo {config : Config.Flow} {b : Builder ρ}
    (made : Builder.new config = .ok b) (protocols : Option (List String)) :
    Builder.new { config with protocols } = .ok (b.restrictTo protocols) := by
  obtain ⟨rfl, read⟩ := Builder.new_eq_ok_iff.mp made
  exact Builder.new_eq_ok_iff.mpr ⟨rfl, read⟩

theorem trace_congr {filter : NoiseFilter ρ} {confidence : Float} {index : BodyIndex}
    {e e' : EntryPoint} (same : e.handler = e'.handler) :
    trace filter confidence index e = trace filter confidence index e' := by
  unfold trace EntryPoint.isAnonymous
  rw [same]

section

variable (b : Builder ρ) (p : Facts.Project) (detected : Frameworks)

/-- Each chain stands at the place of its entry point. -/
theorem getElem?_callChains (i : Nat) :
    (b.build p detected).callChains[i]? = ((b.build p detected).entryPoints[i]?).map
      (chain b.filter b.config.callEdgeConfidence (BodyIndex.build p)) :=
  List.getElem?_map

/-- Without a list every entry point stays. -/
theorem build_restrictTo_none :
    ((b.restrictTo none).build p detected).entryPoints =
      entryPoints detected b.config.customFrameworks b.config.entryPoints p :=
  List.filter_true _

/-- With a list, the entry points of its protocols stay as they are. -/
theorem build_restrictTo_some {allowed : List String} (given : allowed ≠ []) :
    ((b.restrictTo (some allowed)).build p detected).entryPoints =
      ((b.restrictTo none).build p detected).entryPoints.filter fun e => e.protocol ∈ allowed := by
  rw [build_restrictTo_none]
  apply List.filter_congr
  intro e _
  obtain ⟨first, rest, rfl⟩ := List.exists_cons_of_ne_nil given
  exact List.contains_eq_mem _ _

/-- With a list, chains stay with the entry points that they are of. -/
theorem build_restrictTo_zip {allowed : List String} (given : allowed ≠ []) :
    let part := (b.restrictTo (some allowed)).build p detected
    let whole := (b.restrictTo none).build p detected
    part.entryPoints.zip part.callChains =
      (whole.entryPoints.zip whole.callChains).filter fun x => x.1.protocol ∈ allowed := by
  intro part whole
  let traced := chain b.filter b.config.callEdgeConfidence (BodyIndex.build p)
  calc part.entryPoints.zip part.callChains
      = part.entryPoints.map fun e => (e, traced e) := List.map_prod_left_eq_zip.symm
    _ = (whole.entryPoints.filter fun e => e.protocol ∈ allowed).map fun e => (e, traced e) := by
        rw [build_restrictTo_some b p detected given]
    _ = (whole.entryPoints.map fun e => (e, traced e)).filter fun x => x.1.protocol ∈ allowed := by
        rw [List.filter_map]
        rfl
    _ = (whole.entryPoints.zip whole.callChains).filter fun x => x.1.protocol ∈ allowed := by
        rw [List.map_prod_left_eq_zip]
        rfl

end

/-- The flow layer has one chain for each entry point, at the same place, under the id of the entry point
and with the calls that its handler has. The list of protocols restricts the layer: with a list that is
not empty, the entry points of its protocols stay as they are without one, each with its chain, and with
an empty list all stay. So it is for any kind of regular expressions, and any builder; a builder has the
configuration that it is made of, and what is made of that configuration with another list of protocols is
the builder restricted to the list. -/
theorem flow_layer_restricts (b : Builder ρ) (p : Facts.Project) (detected : Frameworks) :
    let config := b.config
    let calls := trace b.filter config.callEdgeConfidence (BodyIndex.build p)
    let layer := b.build p detected
    let limited (protocols : Option (List String)) := (b.restrictTo protocols).build p detected
    layer.callChains.length = layer.entryPoints.length ∧
    (∀ (i : Nat) (e : EntryPoint), layer.entryPoints[i]? = some e →
      layer.callChains[i]? = some ⟨"chain-" ++ e.id, e.id, calls e⟩) ∧
    (∀ e e', e.handler = e'.handler → calls e = calls e') ∧
    (∀ given, Builder.new given = .ok b → config = given ∧
      ∀ protocols, Builder.new { given with protocols } = .ok (b.restrictTo protocols)) ∧
    (limited none).entryPoints = entryPoints detected config.customFrameworks config.entryPoints p ∧
    (∀ allowed, allowed ≠ [] →
      (limited (some allowed)).entryPoints =
        ((limited none).entryPoints.filter fun e => e.protocol ∈ allowed) ∧
      (limited (some allowed)).entryPoints.zip (limited (some allowed)).callChains =
        ((limited none).entryPoints.zip (limited none).callChains).filter
          fun x => x.1.protocol ∈ allowed) ∧
    limited (some []) = limited none := by
  intro config calls layer limited
  have placed : ∀ (i : Nat) (e : EntryPoint), layer.entryPoints[i]? = some e →
      layer.callChains[i]? = some ⟨"chain-" ++ e.id, e.id, calls e⟩ := by
    intro i e here
    rw [getElem?_callChains, here]
    rfl
  have made : ∀ given, Builder.new given = .ok b → config = given ∧
      ∀ protocols, Builder.new { given with protocols } = .ok (b.restrictTo protocols) := by
    intro given made
    exact ⟨(Builder.new_eq_ok_iff.mp made).1, Builder.new_restrictTo made⟩
  exact ⟨List.length_map _, placed, fun _ _ => trace_congr, made, build_restrictTo_none b p detected,
    fun _ given => ⟨build_restrictTo_some b p detected given, build_restrictTo_zip b p detected given⟩,
    rfl⟩

/-- A package that registers a route and a job in one line. -/
def nightly : Facts.Project :=
  let span : Span := ⟨"jobs.go", 7, 7⟩
  let call (package : Option String) (name : String) (args : List String) : Facts.Call :=
    ⟨name, package, none, args, span⟩
  let function (name : String) (calls : List Facts.Call) : Facts.FuncDecl :=
    ⟨name, none, [], [], true, span, some ⟨calls, [], []⟩⟩
  { Facts.Project.empty with
    packages := [{
      id := "jobs", name := "jobs", fullName := "jobs", sourceFiles := [], imports := [], structs := []
      interfaces := []
      functions :=
        [function "register"
            [call none "HandleFunc" ["spec", "status"], call none "AddFunc" ["spec", "sweep"]],
          function "status" [call (some "r") "URL" [], call none "render" []],
          function "sweep" [call none "purge" []]] }] }

/-- The builder of the default configuration, which leaves out what is asked of a request. -/
def standardBuilder : Builder Pattern :=
  ⟨.default, .default, Config.Noise.default.accessorPatterns.filterMap Pattern.parse?⟩

theorem flow_layer_restricts_nightly :
    let detected : Frameworks := ⟨["net/http", "cron"]⟩
    let layer (protocols : Option (List String)) :=
      (standardBuilder.restrictTo protocols).build nightly detected
    Builder.new .default = .ok standardBuilder ∧
    Builder.new { Config.Flow.default with protocols := some ["scheduler"] } =
      .ok (standardBuilder.restrictTo (some ["scheduler"])) ∧
    (layer none).entryPoints.map EntryPoint.id = ["entry-jobs-7", "entry-jobs-7-2"] ∧
    ((layer none).callChains.map fun c => c.calls.map CallEdge.target) = [["render"], ["purge"]] ∧
    (layer (some ["scheduler"])).entryPoints.map EntryPoint.id = ["entry-jobs-7-2"] ∧
    (layer (some ["scheduler"])).entryPoints.zip (layer (some ["scheduler"])).callChains =
      ((layer none).entryPoints.zip (layer none).callChains).filter
        fun x => x.1.protocol ∈ ["scheduler"] := by
  intro detected layer
  have made : Builder.new .default = .ok standardBuilder := rfl
  obtain ⟨-, -, -, new, -, restricts, -⟩ := flow_layer_restricts standardBuilder nightly detected
  exact ⟨made, (new .default made).2 (some ["scheduler"]), by decide, by decide +kernel, by decide,
    (restricts ["scheduler"] (by decide)).2⟩

end ArchAtlas.Flow
