import ArchAtlas.Document.Entity
import ArchAtlas.Document.Relation
import ArchAtlas.Graph.Components

/-!
Metrics of a document: its size, its relations by type, the strongly connected components of its
entities, and the share of relations that the source text does not state.
-/

namespace ArchAtlas

open Codec (count)

/-- How fine a view of a document is. -/
inductive Level where
  | method
  | entity
  | package
  deriving DecidableEq, Repr

namespace Level

def names : List (String × Level) :=
  [("method", method), ("class", entity), ("package", package)]

def codec (ν : Type) [Medium ν] : Codec ν Level := .variants names

def name : Level → String
  | method => "method"
  | entity => "class"
  | package => "package"

/-- The place of a level, the finest first. -/
def index : Level → Nat
  | method => 0
  | entity => 1
  | package => 2

/-- The text is not the name of a level. -/
structure Unknown where
  text : String
  deriving DecidableEq, Repr

def Unknown.message (e : Unknown) : String :=
  "unknown aggregation level: " ++ e.text

def parse (text : String) : Except Unknown Level :=
  match names.lookup text with
  | some level => .ok level
  | none => .error ⟨text⟩

end Level

structure Metrics where
  level : Level
  entityCount : Nat
  relationCount : Nat
  /-- The number of relations of each type that occurs, ordered by the name of the type. -/
  relationTypes : List (String × Nat)
  components : Nat
  /-- The share of relations that the source text does not state, to two decimals. -/
  inferredRatio : Float
  deriving DecidableEq, Repr

namespace Metrics

def codec (ν : Type) [Medium ν] : Codec ν Metrics :=
  .record "GraphMetrics"
    (.cons (.required "level" (Level.codec ν)) <|
      .cons (.required "entityCount" count) <|
      .cons (.required "relationCount" count) <|
      .cons (.required "relationTypeBreakdown" count.table) <|
      .cons (.required "stronglyConnectedComponents" count) <|
      .cons (.required "inferredRelationRatio" .real) .nil)
    (fun (level, entityCount, relationCount, relationTypes, components, inferredRatio, _) =>
      ⟨level, entityCount, relationCount, relationTypes, components, inferredRatio⟩)
    (fun m => (m.level, m.entityCount, m.relationCount, m.relationTypes, m.components,
      m.inferredRatio, ()))

/-- The number of relations of each type that occurs. -/
def countTypes (relations : List Relation) : List (String × Nat) :=
  RelationType.byName.filterMap fun t =>
    let n := relations.countP fun r => r.type = t
    if n = 0 then none else some (t.name, n)

/-- The share of relations that are not explicit, to the nearest hundredth; zero without relations. -/
def ratio (relations : List Relation) : Float :=
  if relations.isEmpty then 0
  else
    let inferred := relations.countP fun r => r.inferenceSource ≠ .explicit
    (inferred.toFloat / relations.length.toFloat * 100).round / 100

/-- The different ids of the entities. -/
def nodes (entities : List Entity) : List String :=
  (entities.map Entity.id).eraseDups

/-- The relations between known entities, as indices into their ids. -/
def edges (ids : List String) (relations : List Relation) : List (Nat × Nat) :=
  relations.filterMap fun r =>
    match ids.idxOf? r.source, ids.idxOf? r.target with
    | some i, some j => some (i, j)
    | _, _ => none

/-- The number of strongly connected components; relations to unknown entities do not count. -/
def countComponents (entities : List Entity) (relations : List Relation) : Nat :=
  let ids := nodes entities
  (Graph.components ids.length (edges ids relations)).length

def compute (entities : List Entity) (relations : List Relation) (level : Level) : Metrics where
  level
  entityCount := entities.length
  relationCount := relations.length
  relationTypes := countTypes relations
  components := countComponents entities relations
  inferredRatio := ratio relations

end Metrics

end ArchAtlas
