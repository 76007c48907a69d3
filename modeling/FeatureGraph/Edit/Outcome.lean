import FeatureGraph.Wire.Edits

/-! # What became of an edit -/
namespace FeatureGraph

structure EditOutcome where
  globalId : String := ""
  objectId : Int := 0
  error : Option String := none
  deriving DecidableEq, Repr

/-- The result of an edit. It is always given; the error says whether the edit failed. -/
structure EditsResult where
  entities : List (String × List EditOutcome) := []
  relationships : List (String × List EditOutcome) := []
  error : Option Failure := none

namespace EditsResult

def isOk (r : EditsResult) : Bool := r.error.isNone

open Wire

def outcomes (results : List (String × List EditResult)) : List (String × List EditOutcome) :=
  results.map fun t =>
    (t.1, t.2.map fun r => ⟨r.globalId, r.objectId, r.error.map (·.message)⟩)

/-- A response that cannot be read is a failed edit, with what the parser says of it. -/
def decode (buffer : List UInt8) (complaint : List UInt8 → Option String := fun _ => none) : EditsResult :=
  match EditResults.read? buffer with
  | none => { error := some (.of .edits ("could not decode edits result" ++ ((complaint buffer).elim "" (": " ++ ·)))) }
  | some r =>
    { entities := outcomes r.entities
      relationships := outcomes r.relationships
      error := r.error.map fun e =>
        .of .graphQuery (if e.message.isEmpty then "apply edits failed" else e.message)
          [("error_code", .int e.code)] }

end EditsResult
end FeatureGraph
