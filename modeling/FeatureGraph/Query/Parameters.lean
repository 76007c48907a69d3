import FeatureGraph.Fault
import FeatureGraph.Text.LetterCase
import FeatureGraph.Text.Split

/-! # The parameters of a feature query -/
namespace FeatureGraph

/-- The recognized parameters. Those whose meaning is settled later keep the value that was sent. -/
structure FeatureQuery where
  filter : Json := .null
  objectIds : List Int := []
  geometry : Json := .null
  geometryType : Json := .null
  inReference : Json := .null
  relation : Json := .null
  idsOnly : Bool := false
  countOnly : Bool := false
  limit : Option Nat := none
  relationshipId : Option String := none

namespace FeatureQuery

/-- A value as text, if every whole number in it can be written. -/
def shown (v : Json) : Except Defect String := if v.isWritable then .ok v.display else .error .unwritableInteger

/-- A parameter that is switched on: true, or the word in any case. -/
def isOn : Json → Except Defect Bool
  | .bool b => .ok b
  | v => do return Text.lower (String.ofList (Text.trim (← shown v).toList)) == "true"

def malformed (message : String) (v : Json) : Failure := .of .filterParse (message ++ v.literal)

/-- Whole numbers in a list or between commas; blank ones are left out. -/
def objectIdsOf (v : Json) : Except Fault (List Int) :=
  if v.isBlank then .ok []
  else if v.isWritable then
    let parts : List (List Char) :=
      match v with
      | .list vs => vs.map fun (p : Json) => p.display.toList
      | _ => Text.splitAt ',' v.display.toList
    match ((parts.map Text.trim).filter fun p => !p.isEmpty).mapM Number.integer? with
    | some ids => .ok ids
    | none => .error (malformed "objectIds must be integers: " v)
  else .error Defect.unwritableInteger

def limitOf (v : Json) : Except Fault (Option Nat) :=
  if v.isBlank then .ok none
  else if v.isWritable then
    match Number.integer? (Text.trim v.display.toList) with
    | none => .error (malformed "resultRecordCount must be an integer: " v)
    | some n =>
      if n < 0 then .error (malformed "resultRecordCount must be non-negative: " (.int n))
      else .ok (some n.toNat)
  else .error Defect.unwritableInteger

def ofParameters (params : Json) : Except Fault FeatureQuery := do
  match params.truthy?.getD (.object []) with
  | .object ms =>
    let get (name : String) : Json := Json.get name (.object ms)
    let objectIds ← objectIdsOf (get "objectIds")
    let idsOnly ← (isOn (get "returnIdsOnly")).mapError .defect
    let countOnly ← (isOn (get "returnCountOnly")).mapError .defect
    let limit ← limitOf (get "resultRecordCount")
    let rel := get "relationshipId"
    let relationshipId ← if rel.isBlank then pure none else some <$> (shown rel).mapError .defect
    return {
      filter := get "where"
      objectIds
      geometry := (get "geometry").truthy?.getD .null
      geometryType := get "geometryType"
      inReference := get "inSR"
      relation := (get "spatialRel").truthy?.getD .null
      idsOnly
      countOnly
      limit
      relationshipId }
  | v => .error (Defect.missingMember v.typeName "get")

end FeatureQuery
end FeatureGraph
