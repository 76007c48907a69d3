import FeatureGraph.Quantization
import FeatureGraph.Schema.Model
import FeatureGraph.Value

/-! # Geometries of features

The points of a geometry are one list; the lengths of its parts cut it into lines or rings. -/
namespace FeatureGraph

inductive FeatureGeometry (α : Type) where
  | point (p : α × α)
  | multiPoint (points : List (α × α))
  | line (points : List (α × α))
  | multiLine (lines : List (List (α × α)))
  | polygon (rings : List (List (α × α)))
  deriving DecidableEq, Repr

namespace FeatureGeometry

/-- The index that a position stands for in a list of some length: a negative one counts from the end,
and none lies outside. -/
def index (length : Nat) (position : Int) : Nat :=
  if position < 0 then (length + position).toNat else min position.toNat length

def segment {β : Type} (xs : List β) (start stop : Int) : List β :=
  (xs.take (index xs.length stop)).drop (index xs.length start)

/-- Cuts parts of given lengths off a list, from a position on. What is left over is dropped. -/
def parts {β : Type} (xs : List β) : Int → List Int → List (List β)
  | _, [] => []
  | start, size :: r => segment xs start (start + size) :: parts xs (start + size) r

theorem segment_natCast {β : Type} (xs : List β) (start size : Nat) :
    segment xs start ((start : Int) + size) = (xs.drop start).take size := by
  have h : ¬ ((start : Int) + size < 0) := by omega
  have h' : ¬ ((start : Int) < 0) := by omega
  simp only [segment, index, h, h', if_false, Int.toNat_natCast]
  rw [show ((start : Int) + size).toNat = start + size by omega, List.drop_take]
  rcases Nat.le_total start xs.length with hs | hs
  · rw [Nat.min_eq_left hs]
    rcases Nat.le_total (start + size) xs.length with ht | ht
    · rw [Nat.min_eq_left ht, Nat.add_sub_cancel_left]
    · rw [Nat.min_eq_right ht, List.take_of_length_le (by simp), List.take_of_length_le (by simp; omega)]
  · rw [Nat.min_eq_right hs, List.drop_length, List.drop_eq_nil_of_le hs]
    simp

/-- The geometry that some points make up, by its tag. A tag that is not known is a point, the first of
the points if there is one. A single length does not cut. -/
def ofPoints? {α : Type} (tag : String) (lengths : List Int) (points : List (α × α)) : Option (FeatureGeometry α) :=
  let multipart : Bool := 1 < lengths.length
  match shapeKind tag with
  | "Polygon" => some (.polygon (if multipart then parts points 0 lengths else [points]))
  | "LineString" => some (if multipart then .multiLine (parts points 0 lengths) else .line points)
  | "MultiPoint" => some (.multiPoint points)
  | _ => points.head?.map .point

/-- The geometry in the world; without a quantization the grid is the world. -/
def ofQuantized? {α : Type} [Add α] [Sub α] [Mul α] [Div α] [Neg α] [BEq α] [OfNat α 0] [OfNat α 1]
    [GridCoordinate α] (g : QuantizedGeometry) (q : Option (Quantization α)) :
    Except Defect (Option (FeatureGeometry α)) := do
  return ofPoints? g.tag g.lengths (← (q.getD .identity).dequantize g.coords)

def position (p : Float × Float) : Value := .list [.float p.1, .float p.2]

def positions (ps : List (Float × Float)) : Value := .list (ps.map position)

def value (g : FeatureGeometry Float) : Value :=
  let named (name : String) (coordinates : Value) : Value :=
    .object [("type", .text name), ("coordinates", coordinates)]
  match g with
  | point p => named "Point" (position p)
  | multiPoint ps => named "MultiPoint" (positions ps)
  | line ps => named "LineString" (positions ps)
  | multiLine lines => named "MultiLineString" (.list (lines.map positions))
  | polygon rings => named "Polygon" (.list (rings.map positions))

end FeatureGeometry
end FeatureGraph
