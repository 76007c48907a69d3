import FeatureGraph.Text.Utf8
import FeatureGraph.Wire.Field

/-! # Scalars inside fields -/
namespace FeatureGraph.Wire

/-- The number of 32 bits in two's complement that the low bits of a number stand for. -/
def signed32 (n : Nat) : Int := Int.bmod n 0x100000000

def low64 (n : Int) : Nat := (n % 0x10000000000000000).toNat

def unzigzag (n : Nat) : Int := if n % 2 = 0 then ((n / 2 : Nat) : Int) else -((n / 2 : Nat) : Int) - 1

/-- Signed numbers as unsigned ones, the smaller in size first: 0, -1, 1, -2, … -/
def zigzag (n : Int) : Nat := if 0 ≤ n then 2 * n.toNat else 2 * (-n - 1).toNat + 1

theorem unzigzag_zigzag (n : Int) : unzigzag (zigzag n) = n := by
  unfold zigzag unzigzag
  split <;> split <;> omega

def low32 (n : Nat) : Nat := n % 0x100000000

def text? (bs : List UInt8) : Option String := Text.Utf8.decode bs

/-- A text that is not empty. -/
def textField (number : Nat) (s : String) : List UInt8 :=
  if s.isEmpty then [] else bytesField number (Text.Utf8.encode s)

/-- A number that is not zero. -/
def nonzeroField (number n : Nat) : List UInt8 := if n = 0 then [] else varintField number n

/-- A double whose bits are not all zero; minus zero is written. -/
def doubleField (number : Nat) (bits : UInt64) : List UInt8 :=
  if bits = 0 then [] else fixed64Field number bits.toNat

/-- Numbers in one field, unless there are none. -/
def packedField (number : Nat) (ns : List Nat) : List UInt8 :=
  if ns.isEmpty then [] else bytesField number (ns.flatMap Varint.encode)

/-- The numbers of a repeated field, packed or one by one; none where packed numbers are malformed. -/
def numbers? : Payload → Option (List Nat)
  | .varint n => some [n]
  | .bytes bs => Varint.readAll bs
  | _ => some []

end FeatureGraph.Wire
