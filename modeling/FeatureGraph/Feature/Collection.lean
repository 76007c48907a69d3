import FeatureGraph.Assoc
import FeatureGraph.Feature.Geometry
import FeatureGraph.Schema.Model

/-! # Collections of features from rows -/
namespace FeatureGraph

structure Feature where
  properties : List (String × Value)
  geometry : Option (FeatureGeometry Float) := none

structure FeatureGroup where
  origin : Value
  features : List Feature

inductive FeatureCollection where
  | features (fs : List Feature)
  | groups (gs : List FeatureGroup)
  | count (n : Int)

/-- Bytes and geometries are not shown as properties. -/
def Value.isShown : Value → Bool
  | bytes _ | geometry _ => false
  | _ => true

namespace Feature

/-- The public properties of an entity, without its geometry. Of two properties with one public name the
later counts. -/
def publicProperties (field : Option String) (properties : List (String × Value)) : List (String × Value) :=
  let shown := properties.filter fun p => some p.1 ≠ field ∧ p.2.isShown
  Assoc.putAll [] (shown.map fun p => (publicName p.1, p.2))

def geometryOf (field : Option String) (properties : List (String × Value)) (q : Option (Quantization Float)) :
    Except Defect (Option (FeatureGeometry Float)) :=
  match field.bind fun name => properties.lookup name with
  | some (.geometry g) => if field = some "" then .ok none else FeatureGeometry.ofQuantized? g q
  | _ => .ok none

/-- A value as a feature. A value that is not an entity is an id. -/
def ofValue (field : Option String) (q : Option (Quantization Float)) : Value → Except Defect Feature
  | .entity _ properties _ => do
    return ⟨publicProperties field properties, ← geometryOf field properties q⟩
  | v => .ok ⟨[(objectIdField, v)], none⟩

def value (f : Feature) : Value :=
  .object [("type", .text "Feature"), ("properties", .object f.properties),
    ("geometry", (f.geometry.map FeatureGeometry.value).getD .null)]

end Feature

namespace FeatureGroup

def originOf : Value → Value
  | .entity _ properties _ => (properties.lookup objectIdProperty).getD .null
  | v => v

/-- Runs of rows whose origin is the same as that of the first row of the run. -/
def runs : List (Value × Feature) → List FeatureGroup
  | [] => []
  | (origin, f) :: r =>
    ⟨origin, f :: (r.takeWhile fun p => p.1.same origin).map (·.2)⟩ :: runs (r.dropWhile fun p => p.1.same origin)
termination_by rows => rows.length
decreasing_by exact Nat.lt_succ_of_le (List.dropWhile_sublist _).length_le

def value (g : FeatureGroup) : Value :=
  .object [("type", .text "FeatureCollection"), ("properties", .object [(objectIdField, g.origin)]),
    ("features", .list (g.features.map Feature.value))]

end FeatureGroup

namespace FeatureCollection

/-- A feature for the first value of each row that has one. -/
def ofRows (field : Option String) (q : Option (Quantization Float)) (rows : List (List Value)) :
    Except Defect FeatureCollection := do
  return features (← (rows.filterMap List.head?).mapM (Feature.ofValue field q))

def related? : List Value → Option (Value × Value)
  | origin :: other :: _ => some (FeatureGroup.originOf origin, other)
  | _ => none

/-- A feature for the second value of each row that has two, grouped by the first. A group ends where the
origin changes. -/
def ofRelatedRows (field : Option String) (q : Option (Quantization Float)) (rows : List (List Value)) :
    Except Defect FeatureCollection := do
  let fs ← (rows.filterMap related?).mapM fun p => do return (p.1, ← Feature.ofValue field q p.2)
  return groups (FeatureGroup.runs fs)

/-- The number in a single row with a single value, otherwise the number of rows. -/
def ofCount (rows : List (List Value)) : Except Defect FeatureCollection :=
  match rows with
  | [[.int n]] => .ok (count n)
  | [[.float x]] =>
    match Number.truncate? x with
    | some n => .ok (count n)
    | none => .error (if x.isNaN then .notANumber else .infiniteNumber)
  | _ => .ok (count rows.length)

def marks : List (String × Value) :=
  [("metadata", .object [("idField", .text objectIdField)]),
    ("filtersApplied", .object [("where", .bool true), ("geometry", .bool true)])]

def value (c : FeatureCollection) : Value :=
  let holding (vs : List Value) (more : List (String × Value)) : Value :=
    .object (("type", .text "FeatureCollection") :: ("features", .list vs) :: more ++ marks)
  match c with
  | features fs => holding (fs.map Feature.value) []
  | groups gs => holding (gs.map FeatureGroup.value) []
  | count n => holding [] [("count", .int n)]

end FeatureCollection
end FeatureGraph
