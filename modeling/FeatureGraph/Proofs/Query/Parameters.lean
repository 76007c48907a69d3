import FeatureGraph.Cypher.Query
import FeatureGraph.Proofs.Assoc
import FeatureGraph.Proofs.Number.Integer

/-! # Parameters that are empty or left out

A parameter that is an empty text asks for what none asks for, and a limit that is a number for what its text does.
So parameters may be given in more than one way and yet ask for one query. -/
namespace FeatureGraph

def Json.ofPresent (fields : List (String × Option Json)) : Json := .object (Assoc.present fields)

theorem Json.get_ofPresent {fields : List (String × Option Json)} (h : (fields.map Prod.fst).Nodup) (name : String) :
    Json.get name (.ofPresent fields) = (fields.lookup name).join.getD .null := by
  rw [Json.ofPresent, Json.get, Json.get?, Assoc.lookup_present h]

def Json.unblank (v : Json) : Json := if v.isBlank then .null else v

theorem Json.unblank_of_isBlank {v : Json} (h : v.isBlank) : v.unblank = .null := if_pos h

theorem Json.unblank_of_not {v : Json} (h : ¬v.isBlank) : v.unblank = v := if_neg h

def nonempty (o : Option String) : Option String := o.filter (!·.isEmpty)

theorem nonempty_some (t : String) : nonempty (some t) = if t.isEmpty then none else some t := by
  cases h : t.isEmpty <;> simp [nonempty, Option.filter, h]

structure QueryTexts where
  filter : Option String := none
  objectIds : Option String := none
  geometry : Option String := none
  inReference : Option String := none
  relation : Option String := none
  idsOnly : Option String := none
  countOnly : Option String := none
  limit : Option String := none

namespace QueryTexts

def fields (q : QueryTexts) : List (String × Option Json) :=
  [("where", q.filter.map .text), ("objectIds", q.objectIds.map .text), ("geometry", q.geometry.map .text),
    ("inSR", q.inReference.map .text), ("spatialRel", q.relation.map .text), ("returnIdsOnly", q.idsOnly.map .text),
    ("returnCountOnly", q.countOnly.map .text), ("resultRecordCount", q.limit.map .text)]

theorem nodup_fields (q : QueryTexts) : (q.fields.map Prod.fst).Nodup := by simp [fields]

def parameters (q : QueryTexts) : Json := .ofPresent q.fields

def isOn (o : Option String) : Bool := o.any fun t => Text.lower (String.ofList (Text.trim t.toList)) == "true"

def settledFields (q : QueryTexts) : List (String × Option Json) :=
  [("where", (nonempty q.filter).map .text), ("objectIds", (nonempty q.objectIds).map .text),
    ("geometry", (nonempty q.geometry).map .text), ("inSR", (nonempty q.inReference).map .text),
    ("spatialRel", (nonempty q.relation).map .text),
    ("returnIdsOnly", if isOn q.idsOnly then some (.text "true") else none),
    ("returnCountOnly", if isOn q.countOnly then some (.text "true") else none),
    ("resultRecordCount", (q.limit.bind fun t => Number.integer? t.toList).map .int)]

/-- The parameters without those that say nothing, and the limit as a number. -/
def settled (q : QueryTexts) : Json := .ofPresent q.settledFields

end QueryTexts

namespace FeatureQuery

/-- The query with an empty text in place of none, where the two ask for the same. -/
def unblanked (q : FeatureQuery) : FeatureQuery :=
  { q with
    filter := q.filter.unblank
    inReference := q.inReference.unblank }

theorem ofParameters_object {ms : List (String × Json)} {get : String → Json}
    (h : ∀ name, Json.get name (.object ms) = get name) : ofParameters (.object ms) = (do
    let objectIds ← objectIdsOf (get "objectIds")
    let idsOnly ← (isOn (get "returnIdsOnly")).mapError .defect
    let countOnly ← (isOn (get "returnCountOnly")).mapError .defect
    let limit ← limitOf (get "resultRecordCount")
    let rel := get "relationshipId"
    let relationshipId ← if rel.isBlank then pure none else some <$> (shown rel).mapError .defect
    return {
      filter := get "where"
      objectIds
      geometry := (get "geometry").truthy?.getD .null
      geometryType := get "geometryType"
      inReference := get "inSR"
      relation := (get "spatialRel").truthy?.getD .null
      idsOnly
      countOnly
      limit
      relationshipId }) := by
  obtain rfl : (Json.get · (.object ms)) = get := funext h
  cases ms <;> rfl

theorem limitOf_int {t : String} {n : Int} (h : Number.integer? t.toList = some n) :
    limitOf (.int n) = limitOf (.text t) := by
  have hne : (Json.text t).isBlank = false := by
    rw [Json.isBlank, String.isEmpty_eq_false_iff]
    rintro rfl
    cases h
  have hint : Number.integer? (Text.trim (Json.int n).display.toList) = some n :=
    Number.integer?_integerText (Number.withinLimit_of_integer? h)
  have htext : Number.integer? (Text.trim (Json.text t).display.toList) = some n := Number.integer?_trim h
  have hwritable : (Json.int n).isWritable = true := decide_eq_true (Number.withinLimit_of_integer? h)
  rw [limitOf, limitOf, hne, hint, htext, hwritable]
  rfl

end FeatureQuery

def Json.ofText (o : Option String) : Json := (o.map .text).getD .null

section Blank
variable (o : Option String)

theorem Json.ofText_nonempty : Json.ofText (nonempty o) = (Json.ofText o).unblank := by
  cases o with
  | none => rfl
  | some t => cases h : t.isEmpty <;> simp [Json.ofText, nonempty_some, Json.unblank, Json.isBlank, h]

theorem Json.truthy?_nonempty : (Json.ofText (nonempty o)).truthy? = (Json.ofText o).truthy? := by
  cases o with
  | none => rfl
  | some t => cases h : t.isEmpty <;> simp [Json.ofText, nonempty_some, Json.truthy?, Json.isTruthy, h]

theorem FeatureQuery.objectIdsOf_of_isBlank {v : Json} (h : v.isBlank) : objectIdsOf v = .ok [] := by
  simp only [objectIdsOf, h, if_true]

theorem FeatureQuery.objectIdsOf_nonempty : objectIdsOf (Json.ofText (nonempty o)) = objectIdsOf (Json.ofText o) := by
  rw [Json.ofText_nonempty]
  by_cases h : (Json.ofText o).isBlank
  · rw [Json.unblank_of_isBlank h, objectIdsOf_of_isBlank h, objectIdsOf_of_isBlank rfl]
  · rw [Json.unblank_of_not h]

theorem FeatureQuery.isOn_ofText : FeatureQuery.isOn (Json.ofText o) = .ok (QueryTexts.isOn o) := by
  cases o with
  | none => decide
  | some t => rfl

theorem FeatureQuery.isOn_switch :
    FeatureQuery.isOn (if QueryTexts.isOn o then Json.text "true" else .null) = .ok (QueryTexts.isOn o) := by
  cases QueryTexts.isOn o <;> decide

end Blank

namespace QueryTexts

variable (q : QueryTexts)

/-- The query that the parameters ask for. -/
theorem ofParameters_parameters : FeatureQuery.ofParameters q.parameters = (do
    let objectIds ← FeatureQuery.objectIdsOf (.ofText q.objectIds)
    let limit ← FeatureQuery.limitOf (.ofText q.limit)
    return {
      filter := .ofText q.filter
      objectIds
      geometry := (Json.ofText q.geometry).truthy?.getD .null
      inReference := .ofText q.inReference
      relation := (Json.ofText q.relation).truthy?.getD .null
      idsOnly := isOn q.idsOnly
      countOnly := isOn q.countOnly
      limit }) := by
  have hidsOnly : FeatureQuery.isOn ((q.fields.lookup "returnIdsOnly").join.getD .null) = .ok (isOn q.idsOnly) :=
    FeatureQuery.isOn_ofText q.idsOnly
  have hcountOnly : FeatureQuery.isOn ((q.fields.lookup "returnCountOnly").join.getD .null) = .ok (isOn q.countOnly) :=
    FeatureQuery.isOn_ofText q.countOnly
  rw [parameters, Json.ofPresent, FeatureQuery.ofParameters_object (Json.get_ofPresent q.nodup_fields), hidsOnly, hcountOnly]
  rfl

theorem ofParameters_settled (h : ∀ t ∈ q.limit, (Number.integer? t.toList).isSome) :
    FeatureQuery.ofParameters q.settled = (FeatureQuery.ofParameters q.parameters).map FeatureQuery.unblanked := by
  have hnodup : (q.settledFields.map Prod.fst).Nodup := by simp [settledFields]
  let number : Json := ((q.limit.bind fun t => Number.integer? t.toList).map .int).getD .null
  have hlimit : FeatureQuery.limitOf number = FeatureQuery.limitOf (.ofText q.limit) := by
    simp only [number]
    cases hq : q.limit with
    | none => rfl
    | some t =>
      obtain ⟨n, hn⟩ := Option.isSome_iff_exists.1 (h t hq)
      rw [Option.bind_some, hn]
      exact FeatureQuery.limitOf_int hn
  have hswitch (o : Option String) :
      FeatureQuery.isOn ((if isOn o then some (Json.text "true") else none).getD .null) = .ok (isOn o) := by
    rw [← FeatureQuery.isOn_switch o]
    split <;> rfl
  have hidsOnly : FeatureQuery.isOn ((q.settledFields.lookup "returnIdsOnly").join.getD .null) = .ok (isOn q.idsOnly) :=
    hswitch q.idsOnly
  have hcountOnly : FeatureQuery.isOn ((q.settledFields.lookup "returnCountOnly").join.getD .null) =
      .ok (isOn q.countOnly) := hswitch q.countOnly
  have hread : FeatureQuery.ofParameters q.settled = (do
      let objectIds ← FeatureQuery.objectIdsOf (.ofText (nonempty q.objectIds))
      let limit ← FeatureQuery.limitOf number
      return {
        filter := .ofText (nonempty q.filter)
        objectIds
        geometry := (Json.ofText (nonempty q.geometry)).truthy?.getD .null
        inReference := .ofText (nonempty q.inReference)
        relation := (Json.ofText (nonempty q.relation)).truthy?.getD .null
        idsOnly := isOn q.idsOnly
        countOnly := isOn q.countOnly
        limit }) := by
    rw [settled, Json.ofPresent, FeatureQuery.ofParameters_object (Json.get_ofPresent hnodup), hidsOnly, hcountOnly]
    rfl
  rw [hread, ofParameters_parameters, FeatureQuery.objectIdsOf_nonempty, hlimit, Json.truthy?_nonempty,
    Json.truthy?_nonempty, Json.ofText_nonempty, Json.ofText_nonempty]
  cases FeatureQuery.objectIdsOf (.ofText q.objectIds) with
  | error e => rfl
  | ok ids => cases FeatureQuery.limitOf (.ofText q.limit) <;> rfl

end QueryTexts

namespace Cypher

section
variable (q : FeatureQuery) (platform : Platform)

theorem filterPredicate_unblanked : filterPredicate q.unblanked platform = filterPredicate q platform := by
  cases hf : q.filter with
  | text s =>
    by_cases hs : s.isEmpty
    · -- A filter that is empty restricts nothing.
      have htrivial : Filter.isTrivial "" = true := by decide
      obtain rfl : s = "" := String.isEmpty_iff.1 hs
      simp [filterPredicate, FeatureQuery.unblanked, Json.unblank, Json.isBlank, hf, Filter.restriction, htrivial]
    · simp [filterPredicate, FeatureQuery.unblanked, Json.unblank, Json.isBlank, hf, hs]
  | _ => simp [filterPredicate, FeatureQuery.unblanked, Json.unblank, Json.isBlank, hf, Json.typeName]

theorem reference_unblank (v : Json) (calls : Nat) : Spatial.reference v.unblank calls = Spatial.reference v calls := by
  cases v with
  | text s =>
    by_cases hs : s.isEmpty
    · obtain rfl : s = "" := String.isEmpty_iff.1 hs
      cases calls <;> rfl
    · rw [Json.unblank_of_not (show ¬(Json.text s).isBlank from hs)]
  | _ => rfl

theorem spatialPredicate_unblanked (policy : SpatialPolicy) (field : Option String) :
    spatialPredicate policy field q.unblanked platform = spatialPredicate policy field q platform := by
  have hshape : Spatial.shape q.geometry q.inReference.unblank platform.projection platform.calls =
      Spatial.shape q.geometry q.inReference platform.projection platform.calls := by
    simp only [Spatial.shape, Spatial.located, reference_unblank]
  simp only [spatialPredicate, FeatureQuery.unblanked, Spatial.predicate, hshape]

theorem entityQuery_unblanked (policy : SpatialPolicy) (entity : String) (field : Option String) :
    entityQuery policy entity field q.unblanked platform = entityQuery policy entity field q platform := by
  rw [entityQuery, entityQuery, filters, filters, filterPredicate_unblanked, spatialPredicate_unblanked]
  rfl

end

def asked (policy : SpatialPolicy) (entity : String) (field : Option String) (params : Json) (platform : Platform := {}) :
    Except Fault String := do
  entityQuery policy entity field (← FeatureQuery.ofParameters params) platform

/-- Parameters that say nothing may be left out, and the limit may be a number. -/
theorem asked_settled (policy : SpatialPolicy) (entity : String) (field : Option String) {q : QueryTexts}
    (h : ∀ t ∈ q.limit, (Number.integer? t.toList).isSome) (platform : Platform) :
    asked policy entity field q.settled platform = asked policy entity field q.parameters platform := by
  rw [asked, asked, q.ofParameters_settled h]
  cases FeatureQuery.ofParameters q.parameters with
  | error e => rfl
  | ok query => exact entityQuery_unblanked query platform policy entity field

end Cypher
end FeatureGraph
