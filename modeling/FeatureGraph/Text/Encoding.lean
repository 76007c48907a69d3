import FeatureGraph.Text.Utf8

/-! # Texts whose first bytes tell their encoding

A text is in UTF-8, UTF-16 or UTF-32. A mark of the byte order in front tells which, and does not belong to the
text; without one the zero bytes among the first four do. -/
namespace FeatureGraph.Text

/-- Each byte as the character of its number; those that are not known show as U+FFFD. -/
def ofSingleBytes (known : Nat) (bytes : List UInt8) : String :=
  String.ofList (bytes.map fun b => if b.toNat < known then Char.ofNat b.toNat else '\uFFFD')

inductive Encoding where
  | utf8
  /-- Units of two bytes, the high one first or last. -/
  | utf16 (highFirst : Bool)
  /-- Units of four bytes, the highest one first or last. -/
  | utf32 (highFirst : Bool)
  deriving DecidableEq, Repr

namespace Encoding

/-- The encoding of some bytes, and the size of the mark in front. -/
def detect (bytes : List UInt8) : Encoding × Nat :=
  match bytes.map UInt8.toNat with
  | 0 :: 0 :: 0xFE :: 0xFF :: _ => (utf32 true, 4)
  | 0xFF :: 0xFE :: 0 :: 0 :: _ => (utf32 false, 4)
  | 0xFE :: 0xFF :: _ => (utf16 true, 2)
  | 0xFF :: 0xFE :: _ => (utf16 false, 2)
  | 0xEF :: 0xBB :: 0xBF :: _ => (utf8, 3)
  | 0 :: 0 :: _ :: _ :: _ => (utf32 true, 0)
  | 0 :: _ :: _ :: _ :: _ => (utf16 true, 0)
  | _ :: 0 :: 0 :: 0 :: _ => (utf32 false, 0)
  | _ :: 0 :: _ :: _ :: _ => (utf16 false, 0)
  | [0, _] => (utf16 true, 0)
  | [_, 0] => (utf16 false, 0)
  | _ => (utf8, 0)

/-- The numbers that groups of some bytes make up; nothing where the last group is not whole. -/
def units? (size : Nat) (highFirst : Bool) (bytes : List UInt8) : Option (List Nat) :=
  let rec groups : Nat → List Nat → Option (List Nat)
    | _, [] => some []
    | 0, _ => none
    | bound + 1, bs =>
      let group := bs.take size
      let value := (if highFirst then group else group.reverse).foldl (fun n b => n * 0x100 + b) 0
      if group.length < size then none else (groups bound (bs.drop size)).map (value :: ·)
  groups bytes.length (bytes.map UInt8.toNat)

/-- The characters of numbers of two bytes: two surrogates make one, a lone one counts as U+FFFD. -/
def ofPairs : List Nat → List Char
  | [] => []
  | [a] => [.ofNat (if 0xD800 ≤ a && a < 0xE000 then 0xFFFD else a)]
  | a :: b :: r =>
    if 0xD800 ≤ a && a < 0xDC00 && 0xDC00 ≤ b && b < 0xE000 then
      .ofNat (0x10000 + (a - 0xD800) * 0x400 + (b - 0xDC00)) :: ofPairs r
    else .ofNat (if 0xD800 ≤ a && a < 0xE000 then 0xFFFD else a) :: ofPairs (b :: r)

/-- The character of a number; nothing beyond the last character. -/
def ofPoint? (n : Nat) : Option Char :=
  if 0xD800 ≤ n && n < 0xE000 then some (.ofNat 0xFFFD) else if n < 0x110000 then some (.ofNat n) else none

def decode? (bytes : List UInt8) : Encoding → Option String
  | utf8 => Utf8.decode bytes
  | utf16 highFirst => (units? 2 highFirst bytes).map fun us => String.ofList (ofPairs us)
  | utf32 highFirst => (units? 4 highFirst bytes).bind fun us => (us.mapM ofPoint?).map String.ofList

/-- The text of some bytes in the encoding that they tell, without its mark. -/
def textOf? (bytes : List UInt8) : Option String :=
  let (encoding, size) := detect bytes
  encoding.decode? (bytes.drop size)

end Encoding
end FeatureGraph.Text
