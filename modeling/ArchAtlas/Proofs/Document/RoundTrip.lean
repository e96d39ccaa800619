import ArchAtlas.Document.Basic
import ArchAtlas.Proofs.Atlas.RoundTrip
import ArchAtlas.Proofs.Facts.RoundTrip

namespace ArchAtlas

open Codec (list_carries record_carries variants_carries)

/-! ## Entities -/

@[simp]
theorem Span.entityCodec_carries (s : Span) : (Span.entityCodec Json).Carries s := by
  apply record_carries (by decide) rfl
  simp

@[simp]
theorem EntityKind.codec_carries (k : EntityKind) : (EntityKind.codec Json).Carries k := by
  apply variants_carries (by decide)
  cases k <;> decide

@[simp]
theorem Visibility.codec_carries (v : Visibility) : (Visibility.codec Json).Carries v := by
  apply variants_carries (by decide)
  cases v <;> decide

@[simp]
theorem MemberKind.codec_carries (k : MemberKind) : (MemberKind.codec Json).Carries k := by
  apply variants_carries (by decide)
  cases k <;> decide

@[simp]
theorem Parameter.codec_carries (p : Parameter) : (Parameter.codec Json).Carries p := by
  apply record_carries (by decide) rfl
  simp

@[simp]
theorem Member.codec_carries (m : Member) : (Member.codec Json).Carries m := by
  apply record_carries (by decide) rfl
  simp

@[simp]
theorem Entity.codec_carries (e : Entity) : (Entity.codec Json).Carries e := by
  apply record_carries (by decide) rfl
  simp

/-! ## Relations and metrics -/

@[simp]
theorem RelationType.codec_carries (t : RelationType) : (RelationType.codec Json).Carries t := by
  apply variants_carries (by decide)
  cases t <;> decide

@[simp]
theorem InferenceSource.codec_carries (s : InferenceSource) :
    (InferenceSource.codec Json).Carries s := by
  apply variants_carries (by decide)
  cases s <;> decide

theorem Relation.codec_carries {r : Relation} (finite : r.confidence.isFinite = true) :
    (Relation.codec Json).Carries r := by
  apply record_carries (by decide) rfl
  simp [finite]

@[simp]
theorem Level.codec_carries (l : Level) : (Level.codec Json).Carries l := by
  apply variants_carries (by decide)
  cases l <;> decide

def Metrics.counts (m : Metrics) : List Nat :=
  [m.entityCount, m.relationCount, m.components] ++ m.relationTypes.map Prod.snd

theorem Metrics.codec_carries {m : Metrics} (finite : m.inferredRatio.isFinite = true)
    (fits : ∀ n ∈ m.counts, n < Width.usize.size)
    (ordered : m.relationTypes.Pairwise fun a b => a.1 < b.1) : (Metrics.codec Json).Carries m := by
  simp only [counts, List.forall_mem_append, List.forall_mem_cons, List.forall_mem_map] at fits
  obtain ⟨⟨entities, relations, components, -⟩, types⟩ := fits
  have breakdown := Codec.table_carries ordered fun e mem => Codec.count_carries (types e mem)
  apply record_carries (by decide) rfl
  simp [entities, relations, breakdown, components, finite]

/-! ## Documents -/

namespace Document

def atlas? (d : Document) : Option Atlas :=
  d.extensions.bind Extensions.atlas

def reals (d : Document) : List Float :=
  d.relations.map Relation.confidence ++ d.metrics.toList.map Metrics.inferredRatio ++
    d.atlas?.toList.flatMap Atlas.reals

def counts (d : Document) : List Nat :=
  d.metrics.toList.flatMap Metrics.counts ++ d.atlas?.toList.flatMap Atlas.counts

/-- What the fields of a document can hold: numbers of things within a machine word, a table in the
order of its keys, and a point in time that there is. -/
structure Fits (d : Document) : Prop where
  counts : ∀ n ∈ d.counts, n < Width.usize.size
  ordered : ∀ m ∈ d.metrics, m.relationTypes.Pairwise fun a b => a.1 < b.1
  dated : ∀ a ∈ d.atlas?, a.metadata.generatedAt.Valid

/-- A document is carried if its numbers are finite and its fields hold what they can hold. -/
theorem codec_carries {d : Document} (fits : d.Fits) (finite : ∀ x ∈ d.reals, x.isFinite = true) :
    (Document.codec Json).Carries d := by
  obtain ⟨fits, ordered, dated⟩ := fits
  simp only [reals, List.forall_mem_append, List.forall_mem_map, List.forall_mem_flatMap,
    Option.mem_toList] at finite
  simp only [counts, List.forall_mem_append, List.forall_mem_flatMap, Option.mem_toList] at fits
  obtain ⟨⟨confidences, ratio⟩, atlasReals⟩ := finite
  obtain ⟨metricsCounts, atlasCounts⟩ := fits
  have relations := list_carries fun r mem => Relation.codec_carries (confidences r mem)
  have metrics := Field.optional_carries "metrics" fun m mem =>
    Metrics.codec_carries (ratio m mem) (metricsCounts m mem) (ordered m mem)
  have extensions : ∀ e ∈ d.extensions, (Extensions.codec Json).Carries e := by
    intro e present
    have inside : ∀ a ∈ e.atlas, a ∈ d.atlas? := by
      intro a mem
      exact Option.mem_bind_iff.mpr ⟨e, present, mem⟩
    have atlas := Field.optional_carries "atlas" fun a mem =>
      Atlas.codec_carries (dated a (inside a mem)) (atlasReals a (inside a mem))
        (atlasCounts a (inside a mem))
    apply record_carries (by decide) rfl
    simp [atlas]
  have extension := Field.optional_carries "extensions" extensions
  apply record_carries (by decide) rfl
  simp [relations, metrics, extension]

end Document

/-- Every document with finite numbers, written and read again, is the same document. The members of
objects may arrive in another order. -/
theorem document_round_trip (d : Document) (fits : d.Fits)
    (finite : ∀ x ∈ d.reals, x.isFinite = true) (v : Json)
    (moved : ((Document.codec Json).encode d).Rearranged v) :
    (Document.codec Json).decode v = .ok d :=
  (Document.codec_carries fits finite).recovers v moved

/-- An atlas of one package with an entry point, made in a leap second of the year 2016. -/
def ledgerAtlas : Atlas where
  version := Atlas.currentVersion
  layers :=
    { package := ⟨[⟨"ledger", "ledger", .cmd, 2, ⟨1, 1, 0⟩⟩], [⟨"ledger", "store", 4294967295⟩],
        [⟨["ledger", "store"], .error⟩]⟩
      capability := ⟨[⟨"ledger.Book", "Book", .struct, "ledger", true, 1, 1, 0, 1⟩],
        [⟨"use-1", .uses, "ledger.Book", "ledger.Page", 0.8, true, some ⟨true, ["book.go:3"]⟩⟩],
        [⟨"ledger.Book", "*Page", "ledger.Page", "book.go:3"⟩]⟩
      spawn := ⟨[⟨"main", "main", .main, none, "ledger", ⟨"main.go", 1⟩⟩],
        [⟨"main", "main.spawn-0", .goFunc⟩],
        [⟨"done", "done", "chan", .bidirectional, ⟨"main.go", 4⟩⟩]⟩
      flow := ⟨[⟨"entry-http-book", "http-get", "http", some .get, "gin", "/book", "Show", [], none,
          ⟨"main.go", 9⟩⟩],
        [⟨"chain-book", "entry-http-book", [⟨"Show", "Find", .indirect, 0.5⟩]⟩]⟩ }
  metadata :=
    { generatedAt := ⟨2016, 12, 31, 23, 59, 60, 500000000⟩
      detectedFrameworks := ⟨["gin"]⟩
      protocols := some []
      oracleUsed := false
      warnings := []
      completeness := ⟨1.0, 0.85, 0.5, 0.6⟩
      performance := ⟨1, 18446744073709551615⟩ }

/-- A document whose relation is less certain than the default. -/
def ledger : Document where
  version := Document.currentVersion
  language := .go
  timestamp := "2016-12-31T23:59:60.5Z"
  sourceFiles := ["book.go", "main.go"]
  entities := [⟨"ledger.Book", "Book", .struct, .exposed,
    [{ name := "Find", kind := .method, visibility := .hidden, returnType := some "error",
       parameters := some [], isAbstract := true }], ⟨"book.go", 3, 9⟩⟩]
  relations := [⟨"r1", .composition, "ledger.Book", "ledger.Page", 0.8, .inferred, some 2⟩]
  metrics := some ⟨.entity, 1, 1, [("composition", 1)], 1, 1.0⟩
  extensions := some ⟨some ledgerAtlas⟩

theorem document_round_trip_ledger :
    ledger.Fits ∧ (∀ x ∈ ledger.reals, x.isFinite = true) ∧
      (Document.codec Json).decode ((Document.codec Json).encode ledger) = .ok ledger := by
  have fits : ledger.Fits := by
    constructor
    · decide
    · decide
    · rintro a ⟨⟩
      constructor <;> decide
  have finite : ∀ x ∈ ledger.reals, x.isFinite = true := by decide
  exact ⟨fits, finite, document_round_trip ledger fits finite _ (.same _)⟩

end ArchAtlas
