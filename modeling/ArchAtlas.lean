import ArchAtlas.Aggregation
import ArchAtlas.Atlas
import ArchAtlas.CapabilityGraph
import ArchAtlas.Codec.Basic
import ArchAtlas.Codec.Fault
import ArchAtlas.Codec.Medium
import ArchAtlas.Confidence
import ArchAtlas.Config.Basic
import ArchAtlas.Config.Validation
import ArchAtlas.Config.Yaml
import ArchAtlas.Decimal.Layout
import ArchAtlas.Decimal.Reading
import ArchAtlas.Decimal.Shortest
import ArchAtlas.Distinct
import ArchAtlas.Document.Basic
import ArchAtlas.Document.Entity
import ArchAtlas.Document.OfFacts
import ArchAtlas.Document.Relation
import ArchAtlas.Engine
import ArchAtlas.Facts.Basic
import ArchAtlas.Facts.Codec
import ArchAtlas.Facts.Survey
import ArchAtlas.Flow.Basic
import ArchAtlas.Flow.Build
import ArchAtlas.Flow.Entry
import ArchAtlas.Flow.Framework
import ArchAtlas.Flow.Trace
import ArchAtlas.Graph.Basic
import ArchAtlas.Graph.Components
import ArchAtlas.Graph.Cycles
import ArchAtlas.Json.Basic
import ArchAtlas.Json.Lexed
import ArchAtlas.Json.Printer
import ArchAtlas.Language
import ArchAtlas.Matching.Basic
import ArchAtlas.Matching.Oracle
import ArchAtlas.Matching.Run
import ArchAtlas.Matching.Session
import ArchAtlas.Metrics
import ArchAtlas.PackageGraph
import ArchAtlas.Pattern.Basic
import ArchAtlas.Pattern.CharSet
import ArchAtlas.Pattern.Parser
import ArchAtlas.Proofs.Aggregation.Relations
import ArchAtlas.Proofs.Graph.Reachability
import ArchAtlas.Proofs.Matching.Pairings
import ArchAtlas.Proofs.Matching.Session
import ArchAtlas.Proofs.Matching.Strategies
import ArchAtlas.SpawnTopology
import ArchAtlas.Table
import ArchAtlas.Text.Blank
import ArchAtlas.Text.CaseFold
import ArchAtlas.Text.Hidden
import ArchAtlas.Text.Quoted
import ArchAtlas.Text.Slice
import ArchAtlas.Text.Word
import ArchAtlas.Timestamp
import ArchAtlas.TypeIndex
import ArchAtlas.TypeName
import ArchAtlas.Yaml.Cursor
import ArchAtlas.Yaml.Medium
import ArchAtlas.Yaml.Node
import ArchAtlas.Yaml.Plain
import ArchAtlas.Yaml.Printer
import ArchAtlas.Yaml.Scalar
import ArchAtlas.Yaml.Token
import ArchAtlas.Proofs.Graph.Departures
import ArchAtlas.Proofs.Graph.Components
import ArchAtlas.Proofs.Distinct
import ArchAtlas.Proofs.Table
import ArchAtlas.Proofs.Metrics
import ArchAtlas.Proofs.Aggregation.Reachability
import ArchAtlas.Proofs.Graph.Cycles
import ArchAtlas.Proofs.Graph.Basic
import ArchAtlas.Proofs.PackageGraph.Scan
import ArchAtlas.Proofs.PackageGraph
import ArchAtlas.Proofs.Aggregation.Partition
import ArchAtlas.Proofs.PackageGraph.Edges
import ArchAtlas.Proofs.Codec.Record
import ArchAtlas.Proofs.Facts.Locator
import ArchAtlas.Proofs.Facts.Survey
import ArchAtlas.Proofs.Matching.Lifecycle
import ArchAtlas.Proofs.Text.Joined
import ArchAtlas.Proofs.Aggregation.RelationIds
import ArchAtlas.Proofs.Document.Entities
import ArchAtlas.Proofs.Flow.EntryIds
import ArchAtlas.Proofs.CapabilityGraph.Passes
import ArchAtlas.Proofs.Document.Capability
import ArchAtlas.Proofs.Document.Closed
import ArchAtlas.Proofs.Matching.Calls
import ArchAtlas.Proofs.Engine.Noninterference
import ArchAtlas.Proofs.Codec.Rearranged
import ArchAtlas.Proofs.Codec.Recovery
import ArchAtlas.Proofs.Codec.Omission
import ArchAtlas.Proofs.Config.Defaults
import ArchAtlas.Proofs.Facts.RoundTrip
import ArchAtlas.Proofs.Atlas.RoundTrip
import ArchAtlas.Proofs.Document.RoundTrip
import ArchAtlas.Proofs.Flow.Restriction
import ArchAtlas.Proofs.Graph.Construction
import ArchAtlas.Proofs.Graph.Feedback
import ArchAtlas.Proofs.Graph.Topological
import ArchAtlas.Proofs.Aggregation.DeclaredPaths
import ArchAtlas.Proofs.TypeIndex.Resolution
import ArchAtlas.Proofs.TypeName
import ArchAtlas.Proofs.SpawnTopology
import ArchAtlas.Proofs.Flow.Trace
import ArchAtlas.Proofs.TypeIndex.Qualified
import ArchAtlas.Proofs.Aggregation.PackageKey
import ArchAtlas.Proofs.CapabilityGraph
import ArchAtlas.Proofs.Aggregation.Levels
import ArchAtlas.Proofs.Document.UniqueIds
import ArchAtlas.Proofs.Flow.Attribution
import ArchAtlas.Proofs.Flow.Sources
import ArchAtlas.Proofs.Flow.Handlers
import ArchAtlas.Proofs.Matching.Deadline
import ArchAtlas.Proofs.Graph.Traversal
