import FeatureGraph.Number.Binary64
import FeatureGraph.Number.Decimal

/-! # Doubles rounded to a fixed number of decimal places -/
namespace FeatureGraph.Number

/-- The exact value in units of the last place, a half to the even neighbour. -/
def unitsOf (places mantissa : Nat) (exponent : Int) : Nat :=
  let (n, d) := scaled mantissa exponent places
  roundHalfEven n d

/-- The digits of a number of units with the point `places` digits from the right. -/
def fixedDigits (places units : Nat) : List Char :=
  let ds := decimalDigits units
  let padded := List.replicate (places + 1 - ds.length) '0' ++ ds
  let whole := padded.length - places
  padded.take whole ++ '.' :: padded.drop whole

/-- Fixed-point text; a negative value that rounds to zero keeps its sign. -/
def fixedText (places : Nat) (x : Float) : List Char :=
  match parts x with
  | .nan => "nan".toList
  | .infinite negative => if negative then "-inf".toList else "inf".toList
  | .finite negative m e =>
    let body := fixedDigits places (unitsOf places m e)
    if negative then '-' :: body else body

/-- The double nearest to the value rounded to some places. The sign of zero, NaN and the infinities
are kept. -/
def roundPlaces (places : Nat) (x : Float) : Float :=
  match parts x with
  | .finite negative m e =>
    Decimal.toFloat { negative, digits := unitsOf places m e, exponent := -(places : Int) }
  | _ => x

end FeatureGraph.Number
