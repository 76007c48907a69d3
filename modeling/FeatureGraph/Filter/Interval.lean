import FeatureGraph.Filter.Expr
import FeatureGraph.Filter.Token
import FeatureGraph.Number.Decimal

/-! # Intervals in filters: a number and a unit within quotes -/
namespace FeatureGraph.Filter

/-- A number with a unit at the front of a text, and what follows it. -/
def amountAt (cs : List Char) : Option (List Char × List Char × List Char) :=
  let (sign, body) := if cs.head? = some '-' then (['-'], cs.drop 1) else ([], cs)
  let whole := body.takeWhile isFigure
  let (point, rest) :=
    match body.dropWhile isFigure with
    | '.' :: r =>
      if (r.takeWhile isFigure).isEmpty then ([], '.' :: r) else ('.' :: r.takeWhile isFigure, r.dropWhile isFigure)
    | r => ([], r)
  let unit := (rest.dropWhile Text.isBlank).takeWhile Char.isAlpha
  if whole.isEmpty || unit.isEmpty then none
  else some (sign ++ whole ++ point, unit, (rest.dropWhile Text.isBlank).dropWhile Char.isAlpha)

/-- The numbers with units in a text, from the left. What stands between them does not count. -/
def amounts : Nat → List Char → List (List Char × List Char)
  | 0, _ => []
  | _, [] => []
  | bound + 1, c :: r =>
    match amountAt (c :: r) with
    | some (number, unit, rest) => (number, unit) :: amounts bound rest
    | none => amounts bound r

/-- The digits of a number with a point after the first `place` of them. -/
def pointed (digits : List Char) (place : Int) : List Char :=
  if place ≤ 0 then "0.".toList ++ List.replicate (-place).toNat '0' ++ digits
  else if digits.length ≤ place then digits ++ List.replicate (place.toNat - digits.length) '0'
  else digits.take place.toNat ++ '.' :: digits.drop place.toNat

/-- A numeral without leading zeros. One with a point or an exponent keeps its places; it is positional
down to six zeros after the point, and has one digit before the point otherwise. -/
def plainNumeral (text : List Char) : List Char :=
  match Number.unsigned? text with
  | none => text
  | some (n, exponent) =>
    let digits := Number.decimalDigits n
    let size : Int := digits.length + exponent
    if text.all isFigure then digits
    else if exponent ≤ 0 ∧ -6 < size then pointed digits size
    else
      let power := size - 1
      pointed digits 1 ++ (if power = 0 then [] else
        'E' :: (if power < 0 then '-' else '+') :: Number.decimalDigits power.natAbs)

/-- The number of an interval: without leading zeros, or what its expression is called. -/
def amountOf (e : Expr) : List Char :=
  match e.bare with
  | .number text => plainNumeral text
  | .form .sign _ [(inner, _)] => if e.isNumber then '-' :: plainNumeral inner.title else []
  | e => e.title

/-- An interval of a number and a unit. The unit stands after the quotes if it is a span of units. -/
def intervalOf (amount unit : List Char) (isSpan : Bool) : Expr :=
  let unit := if unit.isEmpty then [] else ' ' :: unit
  let text :=
    if amount.isEmpty then "INTERVAL".toList ++ unit
    else if isSpan then "INTERVAL '".toList ++ amount ++ '\'' :: unit
    else "INTERVAL '".toList ++ amount ++ unit ++ ['\'']
  .form .interval text []

end FeatureGraph.Filter
