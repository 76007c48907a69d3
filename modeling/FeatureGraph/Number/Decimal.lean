import FeatureGraph.Number.Integer

/-! # Decimal numerals and the doubles nearest to them -/
namespace FeatureGraph.Number

structure Decimal where
  negative : Bool
  digits : Nat
  exponent : Int
  deriving DecidableEq, Repr

/-- The nearest double. Beyond the range of the doubles the result is an infinity or a zero, without
writing the power of ten out. -/
def Decimal.toFloat (d : Decimal) : Float :=
  let size := (decimalDigits d.digits).length + d.exponent
  let x :=
    if d.digits = 0 || size < -400 then 0.0
    else if 400 < size then 1.0 / 0.0
    else if 0 ≤ d.exponent then Float.ofScientific d.digits false d.exponent.toNat
    else Float.ofScientific d.digits true (-d.exponent).toNat
  if d.negative then -x else x

/-- The quiet NaN with no sign. -/
def nan : Float := Float.ofBits 0x7FF8000000000000

def infinity (negative : Bool) : Float := if negative then -(1.0 / 0.0) else 1.0 / 0.0

/-- Every underscore stands between two digits. -/
def underscoresBetweenDigits : List Char → Bool
  | [] => true
  | '_' :: _ => false
  | c :: '_' :: d :: r =>
    (Text.digitValue c).isSome && (Text.digitValue d).isSome && underscoresBetweenDigits (d :: r)
  | [_, '_'] => false
  | _ :: r => underscoresBetweenDigits r

def leadingDigits (cs : List Char) : List Nat :=
  (cs.takeWhile Text.isDecimal).filterMap Text.digitValue

def afterDigits (cs : List Char) : List Char := cs.dropWhile Text.isDecimal

def ofDigits (ds : List Nat) : Nat := ds.foldl (fun n d => 10 * n + d) 0

/-- An exponent mark with at least one digit, to the end of the text. -/
def exponent? : List Char → Option Int
  | [] => some 0
  | c :: r =>
    if c == 'e' || c == 'E' then
      let (negative, body) := signed r
      let ds := leadingDigits body
      if ds.isEmpty || !(afterDigits body).isEmpty then none
      else some (if negative then -(ofDigits ds : Int) else ofDigits ds)
    else none

def unsigned? (cs : List Char) : Option (Nat × Int) :=
  let whole := leadingDigits cs
  let (fraction, rest) :=
    match afterDigits cs with
    | '.' :: r => (leadingDigits r, afterDigits r)
    | r => ([], r)
  if whole.isEmpty && fraction.isEmpty then none
  else (exponent? rest).map (fun e => (ofDigits (whole ++ fraction), e - fraction.length))

/-- A floating-point numeral: blanks around it, a sign, digits of any script with single underscores
between them, a point, an exponent; or an infinity or NaN in any case. -/
def float? (cs : List Char) : Option Float :=
  let body := Text.trimPadding cs
  let (negative, size) := signed body
  let word := String.ofList (size.map Char.toLower)
  if word = "inf" || word = "infinity" then some (infinity negative)
  else if word = "nan" then some nan
  else if !underscoresBetweenDigits body then none
  else
    (unsigned? (size.filter (· != '_'))).map fun (n, e) =>
      Decimal.toFloat { negative, digits := n, exponent := e }

end FeatureGraph.Number
