import ControlProps.Binary64.Basic
import ControlProps.Binary64.Rounding
import ControlProps.Binary64.Shortest
import ControlProps.Binary64.Text
import ControlProps.Catalog.Basic
import ControlProps.Catalog.Document
import ControlProps.CommandLine.Command
import ControlProps.CommandLine.Options
import ControlProps.CommandLine.Run
import ControlProps.Decoding.Basic
import ControlProps.Decoding.Error
import ControlProps.Documents.Basic
import ControlProps.Documents.Sources
import ControlProps.Engine.Expression
import ControlProps.Engine.Patterns
import ControlProps.Engine.Reader
import ControlProps.Entries
import ControlProps.Files.Basic
import ControlProps.Files.Glob
import ControlProps.Files.Workspace
import ControlProps.Geometry.Coercion
import ControlProps.Geometry.Dimension
import ControlProps.Geometry.Frame
import ControlProps.Geometry.Normalizer
import ControlProps.Geometry.Offset
import ControlProps.Geometry.Padding
import ControlProps.Geometry.Transform
import ControlProps.Json.Basic
import ControlProps.Json.Number
import ControlProps.Json.Pointer
import ControlProps.Json.Printer
import ControlProps.Json.Reader
import ControlProps.Json.Reading
import ControlProps.Main
import ControlProps.Pattern.Basic
import ControlProps.Proofs.Binary64.Decimals
import ControlProps.Proofs.Binary64.Extent
import ControlProps.Proofs.Binary64.Integers
import ControlProps.Proofs.Binary64.Order
import ControlProps.Proofs.Binary64.Rounding
import ControlProps.Proofs.Binary64.Text
import ControlProps.Proofs.Catalog.Documents
import ControlProps.Proofs.Catalog.Texts
import ControlProps.Proofs.Decoding.Places
import ControlProps.Proofs.Decoding.Whole
import ControlProps.Proofs.Documents.Loading
import ControlProps.Proofs.Documents.Reports
import ControlProps.Proofs.Engine.DimensionPattern
import ControlProps.Proofs.Engine.Matching
import ControlProps.Proofs.Entries
import ControlProps.Proofs.Except
import ControlProps.Proofs.Geometry.Acceptance
import ControlProps.Proofs.Geometry.Canonical
import ControlProps.Proofs.Geometry.Coercion
import ControlProps.Proofs.Geometry.Dimension
import ControlProps.Proofs.Geometry.DimensionTexts
import ControlProps.Proofs.Geometry.Effects
import ControlProps.Proofs.Geometry.Frame
import ControlProps.Proofs.Geometry.FrameKeys
import ControlProps.Proofs.Geometry.NumberTexts
import ControlProps.Proofs.Geometry.Numbers
import ControlProps.Proofs.Geometry.Serialization
import ControlProps.Proofs.Json.Continuations
import ControlProps.Proofs.Json.Decimals
import ControlProps.Proofs.Json.Numbers
import ControlProps.Proofs.Json.Parts
import ControlProps.Proofs.Json.Prefixes
import ControlProps.Proofs.Json.Reading
import ControlProps.Proofs.Json.Structure
import ControlProps.Proofs.Json.Values
import ControlProps.Proofs.Pairing
import ControlProps.Proofs.Registry.Cache
import ControlProps.Proofs.Registry.Calls
import ControlProps.Proofs.Registry.EntryPoints
import ControlProps.Proofs.Registry.Hints
import ControlProps.Proofs.Registry.Nulls
import ControlProps.Proofs.Registry.Preparation
import ControlProps.Proofs.Schema.Acceptance
import ControlProps.Proofs.Schema.Bounds
import ControlProps.Proofs.Schema.Composition
import ControlProps.Proofs.Schema.Dialect
import ControlProps.Proofs.Schema.Emission
import ControlProps.Proofs.Schema.Faults
import ControlProps.Proofs.Schema.Parts
import ControlProps.Proofs.Schema.Readers
import ControlProps.Proofs.Schema.RoundTrip
import ControlProps.Proofs.Schema.Tagged
import ControlProps.Proofs.Schema.Verdicts
import ControlProps.Proofs.SharedSchemas
import ControlProps.Proofs.Validation.Bags
import ControlProps.Proofs.Validation.Composition
import ControlProps.Proofs.Validation.Conformance
import ControlProps.Proofs.Validation.Depth
import ControlProps.Proofs.Validation.Hints
import ControlProps.Proofs.Validation.Layers
import ControlProps.Proofs.Validation.Nulls
import ControlProps.Proofs.Validation.Numbers
import ControlProps.Proofs.Validation.Order
import ControlProps.Proofs.Validation.Paths
import ControlProps.Proofs.Validation.Places
import ControlProps.Proofs.Validation.Rounding
import ControlProps.Proofs.Validation.Strictness
import ControlProps.Proofs.Validation.Subwalks
import ControlProps.Proofs.Value.Conversions
import ControlProps.Proofs.Value.Equality
import ControlProps.Proofs.Value.Extent
import ControlProps.Proofs.Value.Identity
import ControlProps.Proofs.Value.Parts
import ControlProps.Proofs.Value.RoundTrip
import ControlProps.Proofs.Value.Shapes
import ControlProps.Query.Basic
import ControlProps.Query.Reader
import ControlProps.Registry
import ControlProps.Report
import ControlProps.Schema.Basic
import ControlProps.Schema.Composition
import ControlProps.Schema.Dialect
import ControlProps.Schema.Emission
import ControlProps.Schema.Tagged
import ControlProps.SharedSchemas
import ControlProps.Text.Blank
import ControlProps.Text.CodePoints
import ControlProps.Text.Digit
import ControlProps.Text.Hidden
import ControlProps.Text.Parts
import ControlProps.Text.Quoted
import ControlProps.Text.Style
import ControlProps.Text.Word
import ControlProps.Validation.Check
import ControlProps.Validation.Record
import ControlProps.Validation.Walk
import ControlProps.Value
