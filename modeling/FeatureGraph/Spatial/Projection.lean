import FeatureGraph.Spatial.Shape

/-! # From Web Mercator to degrees

The sphere has a radius of 6378137 metres. Degrees are rounded to six places. -/
namespace FeatureGraph

structure Projection where
  transform : Float → Float → Option (Float × Float)

namespace Projection

/-- Radians per metre along the equator. -/
def perMetre : Float := 1 / 6378137

def pi : Float := 3.141592653589793

def degrees (radians : Float) : Float := radians * 57.29577951308232

/-- A longitude in radians brought between `-π` and `π`. One that is over the border by no more than
rounding stays; an infinite one has no place. -/
def wrapped (lon : Float) : Float :=
  if lon.abs < pi + 1e-12 then lon
  else
    let shifted := lon + pi
    match Number.floor? (shifted / (2 * pi)) with
    | some turns => shifted - 2 * pi * Float.ofInt turns - pi
    | none => Number.nan

/-- A point of the sphere in degrees; far enough north or south is the pole. A NaN makes both coordinates NaN, plus
infinity makes both infinite. -/
def onSphere (x y : Float) : Float × Float :=
  let infinity := Number.infinity false
  if x.isNaN || y.isNaN then (Number.nan, Number.nan)
  else if x == infinity || y == infinity then (infinity, infinity)
  else (degrees (wrapped (x * perMetre)), degrees (Float.atan (Float.sinh (y * perMetre))))

def sphere : Projection where
  transform x y := some (onSphere x y)

variable (p : Projection)

def point? (x y : Float) : Option (Float × Float) :=
  (p.transform x y).map fun q => (Number.roundPlaces 6 q.1, Number.roundPlaces 6 q.2)

def shape? (s : Shape Float) : Option (Shape Float) := s.moved? p.point?

end Projection
end FeatureGraph
