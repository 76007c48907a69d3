/-! # Hexadecimal text of bytes -/
namespace FeatureGraph.Text.Hex

def digit (n : Nat) : Char := if n < 10 then Char.ofNat (0x30 + n) else Char.ofNat (0x57 + n)

def digitUpper (n : Nat) : Char := if n < 10 then Char.ofNat (0x30 + n) else Char.ofNat (0x37 + n)

def value? (c : Char) : Option Nat :=
  let n := c.toNat
  if 0x30 ≤ n && n ≤ 0x39 then some (n - 0x30)
  else if 0x61 ≤ n && n ≤ 0x66 then some (n - 0x57)
  else if 0x41 ≤ n && n ≤ 0x46 then some (n - 0x37)
  else none

def ofBytes (bs : List UInt8) : String :=
  String.ofList (bs.flatMap (fun b => [digit (b.toNat / 16), digit (b.toNat % 16)]))

def ofBytesUpper (bs : List UInt8) : List Char :=
  bs.flatMap (fun b => [digitUpper (b.toNat / 16), digitUpper (b.toNat % 16)])

def bytes? : List Char → Option (List UInt8)
  | [] => some []
  | [_] => none
  | a :: b :: r => do
    let hi ← value? a
    let lo ← value? b
    return .ofNat (hi * 16 + lo) :: (← bytes? r)

/-- The lowest `width` hexadecimal digits of a number, in lower case. -/
def padded : Nat → Nat → List Char
  | 0, _ => []
  | width + 1, n => padded width (n / 16) ++ [digit (n % 16)]

end FeatureGraph.Text.Hex
