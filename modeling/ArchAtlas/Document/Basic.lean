import ArchAtlas.Atlas
import ArchAtlas.Metrics

/-!
The document: entities and relations in a form that no language owns, with metrics, and with the atlas
as an extension. No two entities of a well-formed document share an id.
-/

namespace ArchAtlas

open Codec (text)

/-- What a document may carry along. -/
structure Document.Extensions where
  atlas : Option Atlas
  deriving DecidableEq, Repr

structure Document where
  version : String
  language : Language
  timestamp : String
  sourceFiles : List String
  entities : List Entity
  relations : List Relation
  metrics : Option Metrics
  extensions : Option Document.Extensions
  deriving DecidableEq, Repr

namespace Document

/-- The version of the format. -/
def currentVersion : String := "2.0"

section Codecs

variable (ν : Type) [Medium ν]

def Extensions.codec : Codec ν Extensions :=
  .record "ArchExtensions"
    (.cons (.optional "atlas" (Atlas.codec ν)) .nil)
    (fun (atlas, _) => ⟨atlas⟩)
    (fun e => (e.atlas, ()))

def codec : Codec ν Document :=
  .record "ArchJson"
    (.cons (.required "version" text) <|
      .cons (.required "language" (Language.codec ν)) <|
      .cons (.required "timestamp" text) <|
      .cons (.defaulted "sourceFiles" text.list []) <|
      .cons (.defaulted "entities" (Entity.codec ν).list []) <|
      .cons (.defaulted "relations" (Relation.codec ν).list []) <|
      .cons (.optional "metrics" (Metrics.codec ν)) <|
      .cons (.optional "extensions" (Extensions.codec ν)) .nil)
    (fun (version, language, timestamp, sourceFiles, entities, relations, metrics, extensions, _) =>
      ⟨version, language, timestamp, sourceFiles, entities, relations, metrics, extensions⟩)
    (fun d => (d.version, d.language, d.timestamp, d.sourceFiles, d.entities, d.relations, d.metrics,
      d.extensions, ()))

end Codecs

/-- The first entity with an id. -/
def entity? (d : Document) (id : String) : Option Entity :=
  d.entities.find? fun e => e.id = id

/-- Two entities share an id. -/
structure DuplicateId where
  id : String
  firstFile : String
  secondFile : String
  deriving DecidableEq, Repr

def DuplicateId.message (e : DuplicateId) : String :=
  "Duplicate entity id '" ++ e.id ++ "' (first declared in " ++ e.firstFile ++ ", again in " ++
    e.secondFile ++ ")"

/-- The first entity whose id has been seen, with the file where it was seen. -/
def firstDuplicate? (seen : List (String × String)) : List Entity → Option DuplicateId
  | [] => none
  | e :: rest =>
    match seen.lookup e.id with
    | some file => some ⟨e.id, file, e.location.file⟩
    | none => firstDuplicate? ((e.id, e.location.file) :: seen) rest

/-- Succeeds when no two entities share an id. -/
def checkUnique (d : Document) : Except DuplicateId Unit :=
  match firstDuplicate? [] d.entities with
  | some duplicate => .error duplicate
  | none => .ok ()

end Document

end ArchAtlas
