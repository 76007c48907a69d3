import FeatureGraph.Affine
import FeatureGraph.Assoc
import FeatureGraph.CommandLine.Options
import FeatureGraph.CommandLine.Program
import FeatureGraph.Config
import FeatureGraph.Cypher.Query
import FeatureGraph.Cypher.Spelling
import FeatureGraph.Cypher.Token
import FeatureGraph.Edit.Build
import FeatureGraph.Edit.Guid
import FeatureGraph.Edit.Outcome
import FeatureGraph.Fault
import FeatureGraph.Feature.Collection
import FeatureGraph.Feature.Geometry
import FeatureGraph.Filter.Basic
import FeatureGraph.Filter.Expr
import FeatureGraph.Filter.Function
import FeatureGraph.Filter.Function.Collection
import FeatureGraph.Filter.Function.Moment
import FeatureGraph.Filter.Function.Text
import FeatureGraph.Filter.Grammar
import FeatureGraph.Filter.Grammar.DataType
import FeatureGraph.Filter.Grammar.Name
import FeatureGraph.Filter.Grammar.Operand
import FeatureGraph.Filter.Grammar.Operation
import FeatureGraph.Filter.Grammar.Query
import FeatureGraph.Filter.Grammar.Rules
import FeatureGraph.Filter.Grammar.Window
import FeatureGraph.Filter.Interval
import FeatureGraph.Filter.Predicate
import FeatureGraph.Filter.Reader
import FeatureGraph.Filter.Token
import FeatureGraph.Filter.Vocabulary
import FeatureGraph.Json.Basic
import FeatureGraph.Json.Literal
import FeatureGraph.Json.Printer
import FeatureGraph.Json.Reader
import FeatureGraph.Main
import FeatureGraph.Number.Binary64
import FeatureGraph.Number.Decimal
import FeatureGraph.Number.Fixed
import FeatureGraph.Number.Integer
import FeatureGraph.Number.Shortest
import FeatureGraph.Platform
import FeatureGraph.Proofs.Assoc
import FeatureGraph.Proofs.CommandLine.Agreement
import FeatureGraph.Proofs.CommandLine.Options
import FeatureGraph.Proofs.Config
import FeatureGraph.Proofs.Cypher.Direction
import FeatureGraph.Proofs.Cypher.Forest
import FeatureGraph.Proofs.Cypher.Idempotence
import FeatureGraph.Proofs.Cypher.Nesting
import FeatureGraph.Proofs.Cypher.Pattern
import FeatureGraph.Proofs.Cypher.Policy
import FeatureGraph.Proofs.Cypher.Quotation
import FeatureGraph.Proofs.Cypher.Rewriting
import FeatureGraph.Proofs.Cypher.Scanning
import FeatureGraph.Proofs.Cypher.Spelling
import FeatureGraph.Proofs.Cypher.Token
import FeatureGraph.Proofs.Edit.Assignment
import FeatureGraph.Proofs.Edit.Body
import FeatureGraph.Proofs.Edit.Guid
import FeatureGraph.Proofs.Edit.Point
import FeatureGraph.Proofs.Feature.Assembly
import FeatureGraph.Proofs.Feature.Groups
import FeatureGraph.Proofs.Feature.JsonForm
import FeatureGraph.Proofs.Feature.Parts
import FeatureGraph.Proofs.Filter.Calls
import FeatureGraph.Proofs.Filter.Enclosed
import FeatureGraph.Proofs.Filter.IdList
import FeatureGraph.Proofs.Filter.Legible
import FeatureGraph.Proofs.Filter.Levels
import FeatureGraph.Proofs.Filter.Lexing
import FeatureGraph.Proofs.Filter.Missing
import FeatureGraph.Proofs.Filter.ObjectId
import FeatureGraph.Proofs.Filter.Operands
import FeatureGraph.Proofs.Filter.Operators
import FeatureGraph.Proofs.Filter.Qualification
import FeatureGraph.Proofs.Filter.Reading
import FeatureGraph.Proofs.Filter.Rendering
import FeatureGraph.Proofs.Filter.RoundTrip
import FeatureGraph.Proofs.Filter.Spelled
import FeatureGraph.Proofs.Filter.Statement
import FeatureGraph.Proofs.Filter.Strings
import FeatureGraph.Proofs.Filter.Tests
import FeatureGraph.Proofs.Filter.Texts
import FeatureGraph.Proofs.Number.Double
import FeatureGraph.Proofs.Number.Exact
import FeatureGraph.Proofs.Number.Integer
import FeatureGraph.Proofs.Number.Nearest
import FeatureGraph.Proofs.Number.Order
import FeatureGraph.Proofs.Number.Places
import FeatureGraph.Proofs.Number.Rounding
import FeatureGraph.Proofs.Number.Whole
import FeatureGraph.Proofs.Quantization.Affine
import FeatureGraph.Proofs.Quantization.Inverse
import FeatureGraph.Proofs.Quantization.Rational
import FeatureGraph.Proofs.Query.Parameters
import FeatureGraph.Proofs.Response.Failure
import FeatureGraph.Proofs.Response.Frames
import FeatureGraph.Proofs.Response.Framing
import FeatureGraph.Proofs.Response.Grid
import FeatureGraph.Proofs.Response.Headerless
import FeatureGraph.Proofs.Response.PartialFailure
import FeatureGraph.Proofs.Response.RoundTrip
import FeatureGraph.Proofs.Response.Truncation
import FeatureGraph.Proofs.Response.Unknown
import FeatureGraph.Proofs.Result
import FeatureGraph.Proofs.Schema.Numbering
import FeatureGraph.Proofs.Schema.Reference
import FeatureGraph.Proofs.Schema.Relationships
import FeatureGraph.Proofs.Schema.Retry
import FeatureGraph.Proofs.Schema.SingleFlight
import FeatureGraph.Proofs.Service.Queries
import FeatureGraph.Proofs.Service.QueryText
import FeatureGraph.Proofs.Service.Reference
import FeatureGraph.Proofs.Service.Schema
import FeatureGraph.Proofs.Service.Session
import FeatureGraph.Proofs.Spatial.Failure
import FeatureGraph.Proofs.Spatial.Literal
import FeatureGraph.Proofs.Spatial.Numeral
import FeatureGraph.Proofs.Spatial.Reprojection
import FeatureGraph.Proofs.Spatial.Splitting
import FeatureGraph.Proofs.Spatial.Tiling
import FeatureGraph.Proofs.Text.LetterCase
import FeatureGraph.Proofs.Text.Utf8
import FeatureGraph.Proofs.Url.Parameters
import FeatureGraph.Proofs.Url.Percent
import FeatureGraph.Proofs.Url.Redaction
import FeatureGraph.Proofs.Value.Sameness
import FeatureGraph.Proofs.Wire.Any
import FeatureGraph.Proofs.Wire.Edits
import FeatureGraph.Proofs.Wire.Field
import FeatureGraph.Proofs.Wire.Frame
import FeatureGraph.Proofs.Wire.Identifier
import FeatureGraph.Proofs.Wire.LengthPrefix
import FeatureGraph.Proofs.Wire.Primitive
import FeatureGraph.Proofs.Wire.Range
import FeatureGraph.Proofs.Wire.Response
import FeatureGraph.Proofs.Wire.Splice
import FeatureGraph.Proofs.Wire.Unknown
import FeatureGraph.Quantization
import FeatureGraph.Query.Parameters
import FeatureGraph.Remote.Codec
import FeatureGraph.Remote.Exchange
import FeatureGraph.Schema.Cache
import FeatureGraph.Schema.Info
import FeatureGraph.Schema.Layer
import FeatureGraph.Schema.Model
import FeatureGraph.Service.Handler
import FeatureGraph.Service.Server
import FeatureGraph.Service.Web
import FeatureGraph.Service.World
import FeatureGraph.Spatial.Filter
import FeatureGraph.Spatial.Projection
import FeatureGraph.Spatial.Shape
import FeatureGraph.Text.Blank
import FeatureGraph.Text.Digit
import FeatureGraph.Text.Encoding
import FeatureGraph.Text.Hex
import FeatureGraph.Text.LetterCase
import FeatureGraph.Text.Printable
import FeatureGraph.Text.Quoted
import FeatureGraph.Text.Range
import FeatureGraph.Text.Replace
import FeatureGraph.Text.Split
import FeatureGraph.Text.Utf8
import FeatureGraph.Text.Word
import FeatureGraph.Url.Percent
import FeatureGraph.Value
import FeatureGraph.Wire.Any
import FeatureGraph.Wire.Edits
import FeatureGraph.Wire.Enumeration
import FeatureGraph.Wire.Field
import FeatureGraph.Wire.Frame
import FeatureGraph.Wire.Model
import FeatureGraph.Wire.Query
import FeatureGraph.Wire.Scalar
import FeatureGraph.Wire.Varint
