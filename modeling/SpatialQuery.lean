import SpatialQuery.Main
import SpatialQuery.Proofs.Binding.Conformance
import SpatialQuery.Proofs.Binding.Missing
import SpatialQuery.Proofs.Circulation
import SpatialQuery.Proofs.CommandLine.Serializing
import SpatialQuery.Proofs.Scalar.Dispatch
import SpatialQuery.Proofs.Scalar.Inline
import SpatialQuery.Proofs.Scalar.Square
import SpatialQuery.Proofs.Validation.Invocations
import SpatialQuery.Proofs.Binary64.Range
import SpatialQuery.Proofs.Geometry.Grammar
import SpatialQuery.Proofs.Scalar.Flattening
import SpatialQuery.Proofs.Validation.Weakening
import SpatialQuery.Proofs.Scalar.Failures
import SpatialQuery.Proofs.Json.Record
import SpatialQuery.Proofs.Literal.Written
import SpatialQuery.Proofs.Document.Written
import SpatialQuery.Proofs.LastWrite
import SpatialQuery.Proofs.Scalar.Registration
import SpatialQuery.Proofs.TypeRef.Written
import SpatialQuery.Proofs.Schema.Building
import SpatialQuery.Proofs.Schema.Written
import SpatialQuery.Proofs.TypeRef.Grammar
import SpatialQuery.Proofs.CommandLine.Reporting
import SpatialQuery.Proofs.Validation.Presence
import SpatialQuery.Proofs.Validation.Splicing
import SpatialQuery.Proofs.Binding.Independence
import SpatialQuery.Proofs.Binding.Misuse
import SpatialQuery.Proofs.Binding.Promotion
import SpatialQuery.Proofs.Scalar.Membership
import SpatialQuery.Proofs.Validation.Appending
import SpatialQuery.Proofs.Binary64.Nearest
import SpatialQuery.Proofs.Decimal.Shortest
import SpatialQuery.Proofs.Geometry.Equality
import SpatialQuery.Proofs.Literal.Quoted
import SpatialQuery.Proofs.Decimal.Numeral
import SpatialQuery.Proofs.Decimal.Written
import SpatialQuery.Proofs.Literal.Printed
import SpatialQuery.Proofs.Geometry.Lowering
import SpatialQuery.Proofs.Scalar.Deciding
import SpatialQuery.Proofs.Scalar.Fallbacks
