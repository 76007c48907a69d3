import FeatureGraph.Fault

/-! # Values of a query result -/
namespace FeatureGraph

/-- A geometry as it is delivered: grid steps, and how many points each part has. -/
structure QuantizedGeometry where
  tag : String
  coords : List Int := []
  lengths : List Int := []
  deriving DecidableEq, Repr

inductive Value where
  | null
  | bool (b : Bool)
  | int (n : Int)
  | float (x : Float)
  | text (s : String)
  | bytes (bs : List UInt8)
  | geometry (g : QuantizedGeometry)
  | list (items : List Value)
  | object (members : List (String × Value))
  | entity (typeName : String) (properties : List (String × Value)) (id : Value)
  | relationship (typeName : String) (properties : List (String × Value)) (id origin destination : Value)
  | path (entities relationships : List Value)
  deriving Inhabited

namespace Value

/-- The number that a value stands for where numbers are compared: truth values count as 1 and 0. -/
def asInt? : Value → Option Int
  | bool b => some (if b then 1 else 0)
  | int n => some n
  | _ => none

mutual

/-- Whether two values are the same. Numbers are compared by what they are, whole or not; a NaN is not
even the same as itself; members count without their order. -/
def same : Value → Value → Bool
  | null, null => true
  | text s, text t => s == t
  | bytes a, bytes b => a == b
  | geometry g, geometry h => g == h
  | list a, list b => sameAll a b
  | object a, object b => a.length == b.length && sameMembers a b
  | entity t ps i, entity u qs j => t == u && ps.length == qs.length && sameMembers ps qs && same i j
  | relationship t ps i o d, relationship u qs j p e =>
    t == u && ps.length == qs.length && sameMembers ps qs && same i j && same o p && same d e
  | path es rs, path fs ss => sameAll es fs && sameAll rs ss
  | float x, float y => x == y
  | float x, v => v.asInt?.any (Number.equalsInt x)
  | v, float y => v.asInt?.any (Number.equalsInt y)
  | v, w =>
    match v.asInt?, w.asInt? with
    | some m, some n => m == n
    | _, _ => false

def sameAll : List Value → List Value → Bool
  | [], [] => true
  | v :: vs, w :: ws => same v w && sameAll vs ws
  | _, _ => false

def sameMembers : List (String × Value) → List (String × Value) → Bool
  | [], _ => true
  | (n, v) :: ms, other => (other.lookup n).any (same v) && sameMembers ms other

end

mutual

def ofJson : Json → Value
  | .null => null
  | .bool b => bool b
  | .int n => int n
  | .float x => float x
  | .text s => text s
  | .list items => list (ofJsonAll items)
  | .object members => object (ofJsonMembers members)

def ofJsonAll : List Json → List Value
  | [] => []
  | v :: r => ofJson v :: ofJsonAll r

def ofJsonMembers : List (String × Json) → List (String × Value)
  | [] => []
  | (n, v) :: r => (n, ofJson v) :: ofJsonMembers r

end

mutual

/-- A value as JSON. Bytes and records have no form in JSON, NaN and the infinities have none in strict
JSON. -/
def toJson : Value → Except Defect Json
  | null => .ok .null
  | bool b => .ok (.bool b)
  | int n => .ok (.int n)
  | float x => if x.isNaN || x.isInf then .error .notFiniteInJson else .ok (.float x)
  | text s => .ok (.text s)
  | list items => (toJsonAll items).map .list
  | object members => (toJsonMembers members).map .object
  | bytes _ => .error (.notInJson "bytes")
  | geometry _ => .error (.notInJson "GeometryRecord")
  | entity .. => .error (.notInJson "EntityRecord")
  | relationship .. => .error (.notInJson "RelationshipRecord")
  | path .. => .error (.notInJson "PathRecord")

def toJsonAll : List Value → Except Defect (List Json)
  | [] => .ok []
  | v :: r => do return (← toJson v) :: (← toJsonAll r)

def toJsonMembers : List (String × Value) → Except Defect (List (String × Json))
  | [] => .ok []
  | (n, v) :: r => do return (n, ← toJson v) :: (← toJsonMembers r)

end

end Value
end FeatureGraph
