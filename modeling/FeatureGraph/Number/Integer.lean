import FeatureGraph.Text.Blank
import FeatureGraph.Text.Digit

/-! # Whole numbers in text

A number may be signed and surrounded by blanks, its digits may be of any script, and single
underscores may stand between digits. -/
namespace FeatureGraph.Number

/-- The number that digits spell after `acc`; an underscore stands between two digits only. -/
def digitsFrom (value : Char → Option Nat) (radix : Nat) : Nat → List Char → Option Nat
  | acc, [] => some acc
  | acc, '_' :: c :: r => (value c).bind (fun d => digitsFrom value radix (acc * radix + d) r)
  | acc, c :: r => (value c).bind (fun d => digitsFrom value radix (acc * radix + d) r)

def digits? (value : Char → Option Nat) (radix : Nat) : List Char → Option Nat
  | [] => none
  | c :: r => (value c).bind (fun d => digitsFrom value radix d r)

def signed : List Char → Bool × List Char
  | '-' :: r => (true, r)
  | '+' :: r => (false, r)
  | r => (false, r)

/-- The most decimal digits that a whole number is read from or written with. -/
def digitLimit : Nat := 4300

/-- A decimal whole number of no more than `digitLimit` digits. -/
def integer? (cs : List Char) : Option Int :=
  let (negative, body) := signed (Text.trimPadding cs)
  if digitLimit < (body.filter (· != '_')).length then none
  else (digits? Text.digitValue 10 body).map (fun n => if negative then -(n : Int) else n)

def hexValue (c : Char) : Option Nat :=
  (Text.digitValue c).orElse fun _ =>
    let n := c.toNat
    if 0x61 ≤ n && n ≤ 0x66 then some (n - 0x57)
    else if 0x41 ≤ n && n ≤ 0x46 then some (n - 0x37)
    else none

/-- What follows a mark such as `0x`, which one underscore may end. -/
def afterMark (mark : Char) : List Char → List Char
  | '0' :: m :: '_' :: r => if m.toLower = mark then r else '0' :: m :: '_' :: r
  | '0' :: m :: r => if m.toLower = mark then r else '0' :: m :: r
  | r => r

/-- A whole number of a radix up to sixteen, with or without the mark of the radix. -/
def radixInteger? (radix : Nat) (mark : Char) (cs : List Char) : Option Int :=
  let (negative, body) := signed (Text.trimPadding cs)
  let value := fun c => (hexValue c).filter (· < radix)
  (digits? value radix (afterMark mark body)).map (fun n => if negative then -(n : Int) else n)

def hexInteger? (cs : List Char) : Option Int := radixInteger? 16 'x' cs

def decimalDigits (n : Nat) : List Char := Nat.toDigits 10 n

/-- Neither the number nor its negative has more than `digitLimit` digits. -/
def WithinLimit (n : Int) : Prop := (decimalDigits n.natAbs).length ≤ digitLimit

instance (n : Int) : Decidable (WithinLimit n) := inferInstanceAs (Decidable (_ ≤ _))

def integerText (n : Int) : String :=
  String.ofList (if n < 0 then '-' :: decimalDigits n.natAbs else decimalDigits n.natAbs)

end FeatureGraph.Number
