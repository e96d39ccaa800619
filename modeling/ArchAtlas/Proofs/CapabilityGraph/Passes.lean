import ArchAtlas.CapabilityGraph
import ArchAtlas.Proofs.Table

/-!
The passes that make a capability layer. Edges, their keys and the risks are kept side by side while
implementations and fields are gone through, and the ends of the edges are collected afterwards; what
comes out can be said of the uses and of the edges as they are.

* `usages` are the uses of all fields, each with the risk that it is, if it is one;
* `Draft.Keeps.take_new`, `draft_keeps`: edges, keys and risks are those of the uses kept, at one use and
  over all;
* `sources`, `targets` and `isTouched` are what the collected ends come to.
-/

namespace ArchAtlas.CapabilityGraph

/-- A use of a declared type by a field, with the risk it is reported as if it is kept. -/
structure Usage where
  edge : CapabilityEdge
  risk : Option UsageRisk
  deriving DecidableEq, Repr

/-- The use that a field of a struct makes, if its type is declared in the project. -/
def usage? (index : TypeIndex) (p : Facts.Package) (s : Facts.TypeDecl) (f : Facts.FieldDecl) :
    Option Usage :=
  (index.resolve? p.path f.typeName).map fun target =>
    let owner := p.typeId s
    let location := fieldLocation f s
    let concrete := index.isStruct target
    { edge :=
        { id := "uses-" ++ owner ++ "-" ++ f.typeName
          kind := .uses
          source := owner
          target
          confidence := Confidence.fieldUsage
          concreteUsage := concrete
          context := some ⟨true, [location]⟩ }
      risk := if concrete then some ⟨owner, f.typeName, target, location⟩ else none }

def usages (p : Facts.Project) : List Usage :=
  let index := TypeIndex.build p
  p.packages.flatMap fun pkg => pkg.structs.flatMap fun s => s.fields.filterMap (usage? index pkg s)

/-- What the layer is made of: implementations and uses, the first of each key. -/
def kept (p : Facts.Project) (implementations : List Matching.Implementation) : List Usage :=
  firstBy (fun u => key u.edge)
    ((implementations.map fun i => ⟨implementsEdge i, none⟩) ++ usages p)

/-! ## Edges and risks -/

namespace Draft

/-- Adds a use whose key is new, with its risk. -/
def take (d : Draft) (u : Usage) : Draft :=
  if d.seen.contains (key u.edge) then d
  else ⟨d.edges ++ [u.edge], key u.edge :: d.seen, d.risks ++ u.risk.toList⟩

theorem push_eq_take (d : Draft) (e : CapabilityEdge) : d.push e = d.take ⟨e, none⟩ := by
  unfold push take
  split
  · rfl
  · simp

/-- A longer list of edges tells that a use was new. -/
theorem use_eq_take (index : TypeIndex) (p : Facts.Package) (s : Facts.TypeDecl) (d : Draft)
    (f : Facts.FieldDecl) : d.use index p s f = (usage? index p s f).elim d d.take := by
  unfold use usage?
  cases index.resolve? p.path f.typeName with
  | none => rfl
  | some target =>
    simp only [push, take, Option.map_some, Option.elim_some]
    by_cases concrete : index.isStruct target
    · split <;> simp [concrete]
    · split <;> simp [concrete]

/-- What has been made of the uses kept: their edges and keys, and the risks that they are. -/
structure Keeps (uses : List Usage) (d : Draft) : Prop where
  edges : d.edges = uses.map Usage.edge
  seen : ∀ k, k ∈ d.seen ↔ k ∈ uses.map fun u => key u.edge
  risks : d.risks = uses.filterMap Usage.risk

variable {uses : List Usage} {d : Draft} {u : Usage}

theorem Keeps.take_old (h : Keeps uses d) (old : key u.edge ∈ uses.map fun u => key u.edge) :
    Keeps uses (d.take u) := by
  rwa [take, if_pos (List.contains_iff_mem.mpr ((h.seen _).mpr old))]

theorem Keeps.take_new (h : Keeps uses d) (new : key u.edge ∉ uses.map fun u => key u.edge) :
    Keeps (uses ++ [u]) (d.take u) := by
  rw [take, if_neg (mt List.contains_iff_mem.mp (mt (h.seen _).mp new))]
  refine ⟨?_, ?_, ?_⟩
  · simp [h.edges]
  · intro k
    simp only [List.mem_cons, h.seen k, List.map_append, List.mem_append, List.map_singleton,
      List.not_mem_nil, or_false]
    exact or_comm
  · rw [h.risks, List.filterMap_append]
    cases risk : u.risk <;> simp [risk]

theorem keeps_foldl (uses : List Usage) :
    Keeps (firstBy (fun u => key u.edge) uses) (uses.foldl Draft.take .empty) := by
  induction uses using List.reverseRecOn with
  | nil => exact ⟨rfl, fun _ => Iff.rfl, rfl⟩
  | append_singleton uses u ih =>
    rw [List.foldl_append, List.foldl_cons, List.foldl_nil, firstBy_append_singleton]
    split
    · rename_i old
      exact ih.take_old old
    · rename_i new
      exact ih.take_new new

end Draft

theorem draft_keeps (p : Facts.Project) (implementations : List Matching.Implementation) :
    (draft p implementations).Keeps (kept p implementations) := by
  have uses : draft p implementations =
      ((implementations.map fun i => (⟨implementsEdge i, none⟩ : Usage)) ++ usages p).foldl
        Draft.take .empty := by
    have field (pkg : Facts.Package) (s : Facts.TypeDecl) (d : Draft) :
        s.fields.foldl (Draft.use (TypeIndex.build p) pkg s) d =
          (s.fields.filterMap (usage? (TypeIndex.build p) pkg s)).foldl Draft.take d := by
      rw [List.foldl_filterMap]
      congr 1
      funext d f
      rw [Draft.use_eq_take]
      cases usage? (TypeIndex.build p) pkg s f <;> rfl
    simp only [draft, field, usages, List.foldl_append, List.foldl_map, List.foldl_flatMap,
      Draft.push_eq_take]
  rw [uses]
  exact Draft.keeps_foldl _

theorem build_edges_eq (p : Facts.Project) (implementations : List Matching.Implementation) :
    (build p implementations).edges = (kept p implementations).map Usage.edge :=
  (draft_keeps p implementations).edges

theorem build_risks_eq (p : Facts.Project) (implementations : List Matching.Implementation) :
    (build p implementations).risks = (kept p implementations).filterMap Usage.risk :=
  (draft_keeps p implementations).risks

/-! ## The ends of edges -/

/-- The different nodes with an edge to a node. -/
def sources (edges : List CapabilityEdge) (id : String) : List String :=
  ((edges.filter fun e => e.target = id).map CapabilityEdge.source).eraseDups

def targets (edges : List CapabilityEdge) (id : String) : List String :=
  ((edges.filter fun e => e.source = id).map CapabilityEdge.target).eraseDups

def isTouched (edges : List CapabilityEdge) (id : String) : Bool :=
  edges.any fun e => e.source = id || e.target = id

variable {edges : List CapabilityEdge} {id : String}

theorem isTouched_iff :
    isTouched edges id = true ↔ ∃ e ∈ edges, e.source = id ∨ e.target = id := by
  simp [isTouched]

namespace Fans

/-- The two tables are filled apart. -/
theorem foldl_add (edges : List CapabilityEdge) (f : Fans) :
    edges.foldl Fans.add f =
      ⟨edges.foldl (fun t e => t.addTo e.target e.source) f.incoming,
        edges.foldl (fun t e => t.addTo e.source e.target) f.outgoing⟩ := by
  induction edges generalizing f with
  | nil => rfl
  | cons e edges ih => exact ih (f.add e)

/-- A node that some end was collected for is one that an edge touches. -/
theorem contains_eq_isTouched (edges : List CapabilityEdge) (id : String) :
    ((edges.foldl Fans.add .empty).incoming.contains id ||
      (edges.foldl Fans.add .empty).outgoing.contains id) = isTouched edges id := by
  rw [foldl_add]
  dsimp only [empty]
  rw [Table.contains_addTo_foldl, Table.contains_addTo_foldl, Bool.eq_iff_iff, isTouched_iff]
  simp only [Bool.or_eq_true, List.any_eq_true, decide_eq_true_eq, ← exists_or, ← and_or_left]
  simp only [or_comm]

theorem length_incoming (edges : List CapabilityEdge) (id : String) :
    ((edges.foldl Fans.add .empty).incoming.get? id).elim 0 List.length =
      (sources edges id).length := by
  rw [foldl_add]
  exact Table.length_addTo_foldl edges CapabilityEdge.target CapabilityEdge.source id

theorem length_outgoing (edges : List CapabilityEdge) (id : String) :
    ((edges.foldl Fans.add .empty).outgoing.get? id).elim 0 List.length =
      (targets edges id).length := by
  rw [foldl_add]
  exact Table.length_addTo_foldl edges CapabilityEdge.source CapabilityEdge.target id

end Fans

end ArchAtlas.CapabilityGraph
