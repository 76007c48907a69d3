import FeatureGraph.Number.Fixed
import FeatureGraph.Text.Blank

/-! # Points and envelopes of a spatial filter -/
namespace FeatureGraph

/-- A rectangle given by two corners, which need not be in order. -/
structure Envelope (α : Type) where
  xmin : α
  ymin : α
  xmax : α
  ymax : α
  deriving DecidableEq, Repr

inductive Shape (α : Type) where
  | point (x y : α)
  | envelope (e : Envelope α)

/-- A coordinate to six places, without an exponent and without zeros at the end; a zero has no sign. -/
def coordinateText (x : Float) : String :=
  let cs := Text.trimEnd ['.'] (Text.trimEnd ['0'] (Number.fixedText 6 x))
  if cs.isEmpty || cs == ['-', '0'] then "0" else String.ofList cs

namespace Envelope

/-- The corners in the order of well-known text, the first one again at the end. -/
def wkt (e : Envelope Float) : String :=
  let x0 := coordinateText e.xmin
  let y0 := coordinateText e.ymin
  let x1 := coordinateText e.xmax
  let y1 := coordinateText e.ymax
  s!"POLYGON(({x0} {y0}, {x1} {y0}, {x1} {y1}, {x0} {y1}, {x0} {y0}))"

section

variable {α : Type} [Add α] [Sub α] [Mul α] [Div α] [NatCast α]

/-- Some pieces of equal width side by side; the last one ends where the envelope does. -/
def pieces (e : Envelope α) (count : Nat) : List (Envelope α) :=
  let step := (e.xmax - e.xmin) / (count : α)
  (List.range count).map fun (i : Nat) =>
    { xmin := e.xmin + (i : α) * step
      ymin := e.ymin
      xmax := if i + 1 = count then e.xmax else e.xmin + ((i + 1 : Nat) : α) * step
      ymax := e.ymax }

/-- An envelope that spans a hemisphere in two pieces, one that spans the world or more in four. -/
def split [LE α] [DecidableLE α] (e : Envelope α) : List (Envelope α) :=
  let span := e.xmax - e.xmin
  if ((360 : Nat) : α) ≤ span then e.pieces 4
  else if ((180 : Nat) : α) ≤ span then e.pieces 2
  else [e]

end

@[simp] theorem length_pieces {α : Type} [Add α] [Sub α] [Mul α] [Div α] [NatCast α] (e : Envelope α)
    (count : Nat) : (e.pieces count).length = count := by simp [pieces]

end Envelope

namespace Shape

def wkt : Shape Float → String
  | point x y => s!"POINT({coordinateText x} {coordinateText y})"
  | envelope e => e.wkt

def parts {α : Type} [Add α] [Sub α] [Mul α] [Div α] [NatCast α] [LE α] [DecidableLE α] :
    Shape α → List (Shape α)
  | point x y => [point x y]
  | envelope e => e.split.map envelope

/-- Moves a shape corner by corner, if every corner can be moved. -/
def moved? {α β : Type} (move : α → α → Option (β × β)) : Shape α → Option (Shape β)
  | point x y => (move x y).map fun p => point p.1 p.2
  | envelope e => do
    let low ← move e.xmin e.ymin
    let high ← move e.xmax e.ymax
    return envelope ⟨low.1, low.2, high.1, high.2⟩

end Shape
end FeatureGraph
