import EntityQuery.Calendar
import EntityQuery.Declaration.Attribute
import EntityQuery.Declaration.Derivation
import EntityQuery.Declaration.FieldType
import EntityQuery.Declaration.Token
import EntityQuery.Digest
import EntityQuery.Error
import EntityQuery.Field.Descriptor
import EntityQuery.Field.Key
import EntityQuery.Field.Name
import EntityQuery.Field.Store
import EntityQuery.Model
import EntityQuery.Query
import EntityQuery.Statement.Clause
import EntityQuery.Statement.Conventions
import EntityQuery.Statement.Mapping
import EntityQuery.Statement.Piece
import EntityQuery.Statement.Renderer
import EntityQuery.Statement.Settings
import EntityQuery.Stream.Basic
import EntityQuery.Stream.Node
import EntityQuery.Stream.Program
import EntityQuery.Stream.Scope
import EntityQuery.Telemetry.Journal
import EntityQuery.Telemetry.Recorder
import EntityQuery.Telemetry.Tally
import EntityQuery.Text.Alphanumeric
import EntityQuery.Text.Blank
import EntityQuery.Text.CamelCase
import EntityQuery.Text.Case
import EntityQuery.Text.CaseTable
import EntityQuery.Text.CharClass
import EntityQuery.Text.Cluster
import EntityQuery.Text.ClusterTable
import EntityQuery.Text.Identifier
import EntityQuery.Text.Word
import EntityQuery.Text.WordTable
import EntityQuery.Value
import EntityQuery.Version
import EntityQuery.Proofs.Lookup
import EntityQuery.Proofs.Survivor
import EntityQuery.Proofs.Shape
import EntityQuery.Proofs.Plain
import EntityQuery.Proofs.Failure
import EntityQuery.Proofs.Scoping
import EntityQuery.Proofs.Contents
import EntityQuery.Proofs.Layout
import EntityQuery.Proofs.Placement
import EntityQuery.Proofs.Numbering
import EntityQuery.Proofs.Binding
import EntityQuery.Proofs.Cover
import EntityQuery.Proofs.Connection
import EntityQuery.Proofs.Identifier
import EntityQuery.Proofs.Reader
import EntityQuery.Proofs.Readability
import EntityQuery.Proofs.Spelling
import EntityQuery.Proofs.Check
import EntityQuery.Proofs.Wording
import EntityQuery.Proofs.Ordering
import EntityQuery.Proofs.Selection
import EntityQuery.Proofs.Symbol
import EntityQuery.Proofs.Resemblance
import EntityQuery.Proofs.Reference
import EntityQuery.Proofs.Nesting
import EntityQuery.Proofs.Extension
import EntityQuery.Proofs.Transparency
import EntityQuery.Proofs.Sharing
import EntityQuery.Proofs.Segment
import EntityQuery.Proofs.Recovery
import EntityQuery.Proofs.MethodPath
import EntityQuery.Proofs.PathGrammar
import EntityQuery.Proofs.Encoding
import EntityQuery.Proofs.Naming
import EntityQuery.Proofs.Casing
import EntityQuery.Proofs.Styles
import EntityQuery.Proofs.Letters
import EntityQuery.Proofs.Gathering
import EntityQuery.Proofs.Entries
import EntityQuery.Proofs.Acceptance
import EntityQuery.Proofs.Wrapping
import EntityQuery.Proofs.Addressing
import EntityQuery.Proofs.Tallying
import EntityQuery.Proofs.Chronicle
import EntityQuery.Proofs.Delivery
