import FeatureGraph.Affine
import FeatureGraph.Fault

/-! # Quantized coordinates

A response carries points as whole numbers: the first pair is a position, each later pair the step from
the one before. A quantization maps the world to that grid. The maps are written for any type of coordinate;
only `GridCoordinate` rounds. -/
namespace FeatureGraph

/-- A type of coordinate with the grid of whole numbers in it. -/
class GridCoordinate (α : Type) where
  /-- The coordinate of a grid position. -/
  ofGrid : Int → Except Defect α
  /-- The grid position nearest to a coordinate, a half to the even neighbour. -/
  toGrid : α → Except Defect Int

instance gridCoordinateFloat : GridCoordinate Float where
  ofGrid n := (Number.ofInt? n).elim (.error .numberTooLarge) .ok
  toGrid x :=
    match Number.roundToInt? x with
    | some n => .ok n
    | none => .error (if x.isNaN then .notANumber else .infiniteNumber)

structure Quantization (α : Type) where
  xScale : α
  yScale : α
  xTranslate : α
  yTranslate : α

namespace Quantization

def identity {α : Type} [OfNat α 0] [OfNat α 1] : Quantization α := ⟨1, 1, 0, 0⟩

/-- The pairs of a flat list; a value left over at the end is dropped. -/
def pairs {α : Type} : List α → List (α × α)
  | x :: y :: r => (x, y) :: pairs r
  | _ => []

/-- The positions after each of some steps from a position. -/
def walk {α : Type} [Add α] (x y : α) : List (α × α) → List (α × α)
  | [] => []
  | (dx, dy) :: r => (x + dx, y + dy) :: walk (x + dx) (y + dy) r

/-- The positions that a first position and the steps after it give. -/
def positions {α : Type} [Add α] : List (α × α) → List (α × α)
  | [] => []
  | (x, y) :: r => (x, y) :: walk x y r

@[simp] theorem length_walk {α : Type} [Add α] (x y : α) (ps : List (α × α)) : (walk x y ps).length = ps.length := by
  induction ps generalizing x y with
  | nil => rfl
  | cons p r ih => obtain ⟨dx, dy⟩ := p; simp [walk, ih]

@[simp] theorem length_positions {α : Type} [Add α] (ps : List (α × α)) : (positions ps).length = ps.length := by
  cases ps with
  | nil => rfl
  | cons p r => obtain ⟨x, y⟩ := p; simp [positions]

/-- The steps between positions, from a position on. -/
def stepsFrom {α : Type} [Sub α] (x y : α) : List (α × α) → List α
  | [] => []
  | (x', y') :: r => (x' - x) :: (y' - y) :: stepsFrom x' y' r

/-- The first position and the step to each later one, as a flat list. -/
def steps {α : Type} [Sub α] : List (α × α) → List α
  | [] => []
  | (x, y) :: r => x :: y :: stepsFrom x y r

variable {α : Type} [Add α] [Sub α] [Mul α] [Div α] [Neg α] [BEq α] [OfNat α 0] [OfNat α 1]

/-- The map from the world to the grid: shift back, then divide by the scales. A zero scale has none. -/
def toGrid? (q : Quantization α) : Option (Affine α) :=
  if q.xScale == 0 || q.yScale == 0 then none
  else some ((Affine.shift (-q.xTranslate) (-q.yTranslate)).scaled (1 / q.xScale) (1 / q.yScale))

def toWorld? (q : Quantization α) : Option (Affine α) := q.toGrid?.map Affine.inverse

def dequantize? (q : Quantization α) (coords : List α) : Option (List (α × α)) :=
  q.toWorld?.map fun t => (positions (pairs coords)).map fun p => t.apply p.1 p.2

/-- A flat list of grid steps, not rounded, from world points. -/
def quantize? (q : Quantization α) (points : List (α × α)) : Option (List α) :=
  q.toGrid?.map fun t => steps (points.map fun p => t.apply p.1 p.2)

/-- A quantization from `scale` and `translate` members with `x` and `y`, or `xScale` and so on; none
where nothing is given. -/
def ofJson? (v : Json) : Except Defect (Option (Quantization Float)) :=
  if !v.isTruthy then .ok none
  else
    match v with
    | .object _ => do
      let scale := ((v.get "scale").truthy?).getD (.object [])
      let translate := ((v.get "translate").truthy?).getD (.object [])
      let part (from_ : Json) (short long : String) (default : Float) : Except Defect Float :=
        match from_ with
        | .object _ => (((from_.get? short).orElse fun _ => from_.get? long).getD (.float default)).toFloat
        | _ => .error (.missingMember from_.typeName "get")
      return some {
        xScale := ← part scale "x" "xScale" 1.0
        yScale := ← part scale "y" "yScale" 1.0
        xTranslate := ← part translate "x" "xTranslate" 0.0
        yTranslate := ← part translate "y" "yTranslate" 0.0 }
    | _ => .error (.missingMember v.typeName "get")

/-- World points from whole grid steps; a zero scale divides by zero. -/
def dequantize [GridCoordinate α] (q : Quantization α) (coords : List Int) : Except Defect (List (α × α)) :=
  match q.toWorld? with
  | none => .error .divisionByZero
  | some t => do
    let ps ← (pairs coords).mapM fun p => do
      return ((← GridCoordinate.ofGrid p.1), (← GridCoordinate.ofGrid p.2))
    return (positions ps).map fun p => t.apply p.1 p.2

end Quantization
end FeatureGraph
