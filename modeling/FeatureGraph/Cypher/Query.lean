import FeatureGraph.Filter.Predicate
import FeatureGraph.Platform
import FeatureGraph.Query.Parameters
import FeatureGraph.Schema.Layer
import FeatureGraph.Spatial.Filter

/-! # Cypher queries for layers and relationships

The clauses stand in one order: `match`, `where`, `return`, `order by`, `limit`. The entities that are
filtered are called `n`, related ones `m`. -/
namespace FeatureGraph.Cypher

inductive SpatialPolicy where
  | skip
  | raise
  deriving DecidableEq, Repr

namespace SpatialPolicy

def name : SpatialPolicy → String
  | skip => "skip"
  | raise => "raise"

def ofName? : String → Option SpatialPolicy
  | "skip" => some skip
  | "raise" => some raise
  | _ => none

end SpatialPolicy

def filterPredicate (q : FeatureQuery) (platform : Platform := {}) : Except Fault (Option String) :=
  let restriction (filter : Option String) : Except Fault (Option String) :=
    Filter.restriction "n" filter (q.objectIds.map .int) platform.sql platform.calls
  match q.filter with
  | .null => restriction none
  | .text s => restriction (some s)
  | v =>
    if q.objectIds.isEmpty then .error (Defect.missingMember v.typeName "split") else restriction none

/-- The predicate of the spatial filter. A filter that cannot be read is left out or fails, as the
policy says; other faults always fail. -/
def spatialPredicate (policy : SpatialPolicy) (field : Option String) (q : FeatureQuery) (platform : Platform := {}) :
    Except Fault (Option String) :=
  if q.geometry.isNull then .ok none
  else
    match Spatial.predicate "n" field ⟨q.geometry, q.inReference, q.relation⟩ platform.projection platform.calls with
    | .ok p => .ok (some p)
    | .error (.failure f) =>
      if f.kind = .spatialFilter ∧ policy = .skip then .ok none else .error f
    | .error (.defect d) => .error d

/-- The predicates joined. The filter stands in parentheses so that the spatial predicate holds for
each of its alternatives. -/
def whereClause : Option String → Option String → String
  | some filter, some spatial => s!"where ({filter}) and {spatial} "
  | some filter, none => s!"where {filter} "
  | none, some spatial => s!"where {spatial} "
  | none, none => ""

def filters (policy : SpatialPolicy) (field : Option String) (q : FeatureQuery) (platform : Platform := {}) :
    Except Fault String := do
  let filter ← filterPredicate q platform
  let spatial ← spatialPredicate policy field q platform
  return whereClause filter spatial

/-- What is returned of some variables: their number, their ids, or all of them. -/
def returnClause (q : FeatureQuery) (names : List String) (counted : String) : String :=
  if q.countOnly then s!"return count({counted})"
  else if q.idsOnly then "return " ++ String.intercalate ", " (names.map (· ++ "." ++ objectIdProperty))
  else "return " ++ String.intercalate ", " names

/-- The greatest number of rows, which has to be written; a count has none. -/
def limitClause (q : FeatureQuery) : Except Defect String :=
  match q.limit with
  | none => .ok ""
  | some n =>
    if q.countOnly then .ok ""
    else if Number.WithinLimit n then .ok s!" limit {n}"
    else .error .unwritableInteger

def entityQuery (policy : SpatialPolicy) (entity : String) (field : Option String) (q : FeatureQuery)
    (platform : Platform := {}) : Except Fault String := do
  let filters ← filters policy field q platform
  let limit ← (limitClause q).mapError .defect
  return s!"match (n:{entity}) " ++ filters ++ returnClause q ["n"] "n" ++ limit

/-- The path between an entity type and a related one. The arrow runs from origin to destination. -/
def relationshipPattern (entity related : String) (name : String) (role : Role) : String :=
  match role with
  | .origin => s!"(n:{entity})-[r:{name}]->(m:{related})"
  | .destination => s!"(n:{entity})<-[r:{name}]-(m:{related})"

/-- The query for related entities. Rows come in the order of the ids of the entities filtered, so that
rows of one entity follow each other. -/
def relationshipQuery (policy : SpatialPolicy) (entity related : String) (name : String) (role : Role)
    (field : Option String) (q : FeatureQuery) (platform : Platform := {}) : Except Fault String := do
  let filters ← filters policy field q platform
  let order := if q.countOnly then "" else s!" order by n.{objectIdProperty}"
  let limit ← (limitClause q).mapError .defect
  return s!"match {relationshipPattern entity related name role} " ++ filters ++
    returnClause q ["n", "m"] "m" ++ order ++ limit

end FeatureGraph.Cypher
