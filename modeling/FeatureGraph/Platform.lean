import FeatureGraph.Filter.Grammar
import FeatureGraph.Remote.Codec
import FeatureGraph.Spatial.Projection

/-! # What requests are handled with -/
namespace FeatureGraph

/-- The libraries that requests are handled with, and the room that the interpreter leaves for calls within each
other. -/
structure Platform where
  sql : Filter.Library := .postgres
  projection : Projection := .sphere
  codec : Codec := .standard
  /-- What the parser of the wire format says of bytes that it refuses, where that is known. -/
  complaint : List UInt8 → Option String := fun _ => none
  calls : Nat := callLimit

end FeatureGraph
