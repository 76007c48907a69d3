/-! # Affine maps of the plane

A map sends `(x, y)` to `(xx * x + xy * y + xd, yx * x + yy * y + yd)`. The arithmetic is that of the
coordinate type, in the order written. -/
namespace FeatureGraph

structure Affine (α : Type) where
  xx : α
  xy : α
  xd : α
  yx : α
  yy : α
  yd : α

namespace Affine

variable {α : Type} [Add α] [Sub α] [Mul α] [Div α] [Neg α] [BEq α] [OfNat α 0] [OfNat α 1]

def zero : Affine α := ⟨0, 0, 0, 0, 0, 0⟩

def shift (x y : α) : Affine α := ⟨1, 0, x, 0, 1, y⟩

def scaling (x y : α) : Affine α := ⟨x, 0, 0, 0, y, 0⟩

/-- Scales the image of the map. -/
def scaled (t : Affine α) (x y : α) : Affine α :=
  ⟨t.xx * x, t.xy * x, t.xd * x, t.yx * y, t.yy * y, t.yd * y⟩

def determinant (t : Affine α) : α := t.xx * t.yy - t.xy * t.yx

/-- The inverse map; a map without one gives the zero map. -/
def inverse (t : Affine α) : Affine α :=
  if t.determinant == 0 then zero
  else
    let d := 1 / t.determinant
    { xx := t.yy * d
      xy := -t.xy * d
      xd := (t.xy * t.yd - t.xd * t.yy) * d
      yx := -t.yx * d
      yy := t.xx * d
      yd := (t.xd * t.yx - t.xx * t.yd) * d }

def apply (t : Affine α) (x y : α) : α × α :=
  (t.xx * x + t.xy * y + t.xd, t.yx * x + t.yy * y + t.yd)

omit [Add α] in
theorem inverse_of_determinant {t : Affine α} (h : (t.determinant == 0) = true) :
    t.inverse = zero := by simp [inverse, h]

end Affine
end FeatureGraph
