import FeatureGraph.Schema.Info
import FeatureGraph.Service.Server

/-! # Requests for features

A request names a service, a layer of it and a method. Every request is responded to: an error becomes a
body with its status. -/
namespace FeatureGraph

structure FeatureRequest where
  service : String
  /-- Null or empty for the service as a whole. -/
  layer : Json := .null
  method : Json := .null
  query : Json := .object []

structure FeatureResponse where
  ok : Bool
  status : Nat
  body : Value

namespace FeatureResponse

def ofFault (e : Fault) : FeatureResponse where
  ok := false
  status := e.status
  body := .ofJson (.object [("code", .int e.status),
    ("message", .text (if e.message.isEmpty then "internal error" else e.message)),
    ("error", .text e.name), ("details", if e.details.isEmpty then .null else .object e.details)])

end FeatureResponse

namespace FeatureRequest

inductive QueryMethod where
  | query
  | queryRelatedRecords
  deriving DecidableEq, Repr

def queryMethod? : Json → Option QueryMethod
  | .text "query" => some .query
  | .text "queryRelatedRecords" => some .queryRelatedRecords
  | _ => none

variable (remote : Remote)

def body (servers : List Server) (r : FeatureRequest) : Session Value := do
  match servers.find? (·.name == r.service) with
  | none => throw (.failure (.of .serviceNotFound s!"Service {r.service} not found"))
  | some s =>
    let caller := tokenText (r.query.get "token")
    if r.layer.isBlank then
      return .ofJson (← s.schema remote caller).info
    else
      let l ← s.layer remote r.layer caller
      match queryMethod? r.method with
      | none => return .ofJson l.info
      | some method =>
        let relationship := r.query.get "relationshipId"
        if !relationship.isBlank then
          return (← s.queryRelated remote l relationship r.query caller).value
        else if method = .queryRelatedRecords then
          throw (.failure (.of .invalidRelationship "relationshipId is required"))
        else
          return (← s.queryLayer remote l r.query caller).value

/-- The response to a request. It never fails. -/
def respond (servers : List Server) (r : FeatureRequest) : StateM World FeatureResponse := do
  match ← (r.body remote servers).run with
  | .ok v => return ⟨true, 200, v⟩
  | .error e => return .ofFault e

end FeatureRequest
end FeatureGraph
