import ArchAtlas.Matching.Basic

/-!
Relations: directed, typed edges between entities. The target may be an entity that the document does
not have.
-/

namespace ArchAtlas

open Codec (text)

inductive RelationType where
  | inheritance
  | implementation
  | composition
  | aggregation
  | dependency
  deriving DecidableEq, Repr

namespace RelationType

def names : List (String × RelationType) :=
  [("inheritance", inheritance), ("implementation", implementation), ("composition", composition),
    ("aggregation", aggregation), ("dependency", dependency)]

def codec (ν : Type) [Medium ν] : Codec ν RelationType := .variants names

def name : RelationType → String
  | inheritance => "inheritance"
  | implementation => "implementation"
  | composition => "composition"
  | aggregation => "aggregation"
  | dependency => "dependency"

/-- The relation types in the order of their names. -/
def byName : List RelationType :=
  [aggregation, composition, dependency, implementation, inheritance]

end RelationType

structure Relation where
  id : String
  type : RelationType
  source : String
  target : String
  confidence : Float
  inferenceSource : InferenceSource
  /-- How many relations were folded into this one. -/
  strength : Option UInt32
  deriving DecidableEq, Repr

namespace Relation

/-- A relation that the source text states. -/
def explicit (id : String) (type : RelationType) (source target : String) : Relation :=
  ⟨id, type, source, target, 1.0, .explicit, none⟩

/-- The relation with another origin and with a confidence between zero and one. -/
def withInference (r : Relation) (origin : InferenceSource) (confidence : Float) : Relation :=
  { r with inferenceSource := origin, confidence := Confidence.clamp confidence }

/-- What no two relations of a document share. -/
def key (r : Relation) : String × String × RelationType :=
  (r.source, r.target, r.type)

def codec (ν : Type) [Medium ν] : Codec ν Relation :=
  .record "Relation"
    (.cons (.required "id" text) <|
      .cons (.required "type" (RelationType.codec ν)) <|
      .cons (.required "source" text) <|
      .cons (.required "target" text) <|
      .cons (.defaulted "confidence" .real 1.0) <|
      .cons (.defaulted "inferenceSource" (InferenceSource.codec ν) .explicit) <|
      .cons (.optional "strength" .u32) .nil)
    (fun (id, type, source, target, confidence, inferenceSource, strength, _) =>
      ⟨id, type, source, target, confidence, inferenceSource, strength⟩)
    (fun r => (r.id, r.type, r.source, r.target, r.confidence, r.inferenceSource, r.strength, ()))

end Relation

end ArchAtlas
