import FeatureGraph.Number.Binary64
import FeatureGraph.Number.Integer

/-! # The fewest decimal digits that read back as the same double

A positive double is the nearest double to every number of an interval around it. Of the decimal
grids with 1, 2, 3, … digits the first is taken that has a point in that interval, and of the
two points next to the double the nearer one. -/
namespace FeatureGraph.Number

/-- The numbers that round to one double, as `low` to `high` quarters of a unit `2 ^ unit`. The ends
belong to the interval when the mantissa is even. -/
structure Interval where
  low : Nat
  value : Nat
  high : Nat
  unit : Int
  closed : Bool

/-- Below a power of two the neighbouring double is half as far. -/
def Interval.around (mantissa : Nat) (exponent : Int) : Interval where
  low := if mantissa = 0x10000000000000 ∧ -1074 < exponent then 4 * mantissa - 1 else 4 * mantissa - 2
  value := 4 * mantissa
  high := 4 * mantissa + 2
  unit := exponent - 2
  closed := mantissa % 2 = 0

/-- A factor `a / b` that turns quarters of the unit into steps of the grid `10 ^ step`. -/
def Interval.factor (i : Interval) (step : Int) : Nat × Nat :=
  ((if 0 ≤ i.unit then Nat.pow 2 i.unit.toNat else 1) * (if step < 0 then Nat.pow 10 (-step).toNat else 1),
    (if i.unit < 0 then Nat.pow 2 (-i.unit).toNat else 1) * (if 0 ≤ step then Nat.pow 10 step.toNat else 1))

/-- Whether the grid point `n * 10 ^ step` lies in the interval. -/
def Interval.holds (i : Interval) (step : Int) (n : Nat) : Bool :=
  let (a, b) := i.factor step
  if i.closed then i.low * a ≤ n * b && n * b ≤ i.high * a else i.low * a < n * b && n * b < i.high * a

/-- The grid point next to the value that lies in the interval; the nearer of two, a tie to the even
one. -/
def Interval.point? (i : Interval) (step : Int) : Option Nat :=
  let (a, b) := i.factor step
  let below := i.value * a / b
  let left := i.value * a - below * b
  let right := (below + 1) * b - i.value * a
  match i.holds step below, i.holds step (below + 1) with
  | true, true =>
    some (if left < right then below else if right < left then below + 1
      else if below % 2 = 0 then below else below + 1)
  | true, false => some below
  | false, true => some (below + 1)
  | false, false => none

/-- The exponent `e` with `10 ^ e ≤ value < 10 ^ (e + 1)`: an estimate from the binary length, put
right by one where needed. -/
def Interval.magnitude (i : Interval) : Int :=
  let estimate := ((i.value.log2 + i.unit) * 30103).fdiv 100000
  let reaches (e : Int) : Bool := let (a, b) := i.factor e; b ≤ i.value * a
  if !reaches estimate then estimate - 1
  else if reaches (estimate + 1) then estimate + 1
  else estimate

def Interval.search (i : Interval) (magnitude : Int) : Nat → Nat → Nat × Int
  | 0, n => let step := magnitude - n + 1; ((i.point? step).getD 0, step)
  | more + 1, n =>
    let step := magnitude - n + 1
    match i.point? step with
    | some p => (p, step)
    | none => i.search magnitude more (n + 1)

/-- Divides the tens out of a number. -/
def withoutZeros : Nat → Nat → Int → Nat × Int
  | 0, n, e => (n, e)
  | fuel + 1, n, e => if n ≠ 0 ∧ n % 10 = 0 then withoutZeros fuel (n / 10) (e + 1) else (n, e)

/-- The shortest digits and their exponent: the number is `digits * 10 ^ exponent`. Seventeen digits
always suffice. -/
def shortest (mantissa : Nat) (exponent : Int) : Nat × Int :=
  if mantissa = 0 then (0, 0)
  else
    let i := Interval.around mantissa exponent
    let (n, e) := i.search i.magnitude 16 1
    withoutZeros 20 n e

structure FloatLayout where
  /-- Positional from this power of ten on. -/
  positionalFrom : Int
  /-- Positional below this power of ten. -/
  positionalBelow : Int
  /-- Written after a whole number. -/
  wholeMark : String
  exponentDigits : Nat
  nan : String
  infinity : String

def zeros (n : Nat) : List Char := List.replicate n '0'

def FloatLayout.positional (l : FloatLayout) (ds : List Char) (magnitude : Int) : List Char :=
  if magnitude < 0 then '0' :: '.' :: zeros (-magnitude - 1).toNat ++ ds
  else
    let whole := magnitude.toNat + 1
    if ds.length ≤ whole then ds ++ zeros (whole - ds.length) ++ l.wholeMark.toList
    else ds.take whole ++ '.' :: ds.drop whole

def FloatLayout.scientific (l : FloatLayout) (ds : List Char) (magnitude : Int) : List Char :=
  let size := decimalDigits magnitude.natAbs
  ds.take 1 ++ (if ds.length ≤ 1 then [] else '.' :: ds.drop 1) ++
    ['e', if magnitude < 0 then '-' else '+'] ++ zeros (l.exponentDigits - size.length) ++ size

def FloatLayout.unsigned (l : FloatLayout) (mantissa : Nat) (exponent : Int) : List Char :=
  let (n, e) := shortest mantissa exponent
  let ds := decimalDigits n
  let magnitude := e + ds.length - 1
  if n = 0 || (l.positionalFrom ≤ magnitude && magnitude < l.positionalBelow) then
    l.positional ds magnitude
  else l.scientific ds magnitude

def FloatLayout.write (l : FloatLayout) (x : Float) : String :=
  match parts x with
  | .nan => l.nan
  | .infinite negative => if negative then "-" ++ l.infinity else l.infinity
  | .finite negative m e =>
    String.ofList (if negative then '-' :: l.unsigned m e else l.unsigned m e)

/-- Doubles in messages and answers: positional from 0.0001 up to 10^16, a whole number ends in `.0`,
an exponent has two digits at least. -/
def FloatLayout.plain : FloatLayout :=
  ⟨-4, 16, ".0", 2, "nan", "inf"⟩

end FeatureGraph.Number
