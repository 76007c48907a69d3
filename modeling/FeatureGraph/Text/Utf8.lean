/-! # UTF-8 over lists of bytes

`scan` reads a byte string as characters and malformed stretches; `decode` refuses the stretches and
`decodeLossy` shows each of them as U+FFFD. -/
namespace FeatureGraph.Text.Utf8

def encodeChar (c : Char) : List UInt8 :=
  let n := c.toNat
  if n < 0x80 then [.ofNat n]
  else if n < 0x800 then [.ofNat (0xC0 + n / 0x40), .ofNat (0x80 + n % 0x40)]
  else if n < 0x10000 then
    [.ofNat (0xE0 + n / 0x1000), .ofNat (0x80 + n / 0x40 % 0x40), .ofNat (0x80 + n % 0x40)]
  else
    [.ofNat (0xF0 + n / 0x40000), .ofNat (0x80 + n / 0x1000 % 0x40),
      .ofNat (0x80 + n / 0x40 % 0x40), .ofNat (0x80 + n % 0x40)]

def encode (s : String) : List UInt8 := s.toList.flatMap encodeChar

/-- What the first byte of a character says: how many bytes follow, the bits it gives, and the least
and the greatest second byte. -/
structure Lead where
  follow : Nat
  bits : Nat
  low : Nat := 0x80
  high : Nat := 0xBF

def lead? (b : Nat) : Option Lead :=
  if b < 0x80 then some { follow := 0, bits := b }
  else if b < 0xC2 then none
  else if b < 0xE0 then some { follow := 1, bits := b - 0xC0 }
  else if b = 0xE0 then some { follow := 2, bits := 0, low := 0xA0 }
  else if b = 0xED then some { follow := 2, bits := 0xD, high := 0x9F }
  else if b < 0xF0 then some { follow := 2, bits := b - 0xE0 }
  else if b = 0xF0 then some { follow := 3, bits := 0, low := 0x90 }
  else if b < 0xF4 then some { follow := 3, bits := b - 0xF0 }
  else if b = 0xF4 then some { follow := 3, bits := 4, high := 0x8F }
  else none

/-- Takes the following bytes of a character. A malformed stretch ends before the first byte that
cannot stand where it does. -/
def follow : Nat → Nat → Nat → Nat → List UInt8 → Option Char × List UInt8
  | 0, bits, _, _, bs => (some (Char.ofNat bits), bs)
  | _ + 1, _, _, _, [] => (none, [])
  | n + 1, bits, low, high, b :: bs =>
    if low ≤ b.toNat && b.toNat ≤ high then follow n (bits * 0x40 + (b.toNat - 0x80)) 0x80 0xBF bs
    else (none, b :: bs)

theorem follow_length_le (n bits low high : Nat) (bs : List UInt8) :
    (follow n bits low high bs).2.length ≤ bs.length := by
  induction n generalizing bits low high bs with
  | zero => simp [follow]
  | succ n ih =>
    cases bs with
    | nil => simp [follow]
    | cons b bs =>
      simp only [follow]
      split
      · exact Nat.le_succ_of_le (ih _ _ _ _)
      · simp

/-- The characters of a byte string in order, `none` for each malformed stretch. -/
def scan : List UInt8 → List (Option Char)
  | [] => []
  | b :: bs =>
    match lead? b.toNat with
    | none => none :: scan bs
    | some l =>
      let r := follow l.follow l.bits l.low l.high bs
      r.1 :: scan r.2
termination_by bs => bs.length
decreasing_by
  · simp
  · exact Nat.lt_succ_of_le (follow_length_le ..)

/-- The text of a byte string, none where the bytes are no UTF-8. -/
def decode (bs : List UInt8) : Option String :=
  ((scan bs).mapM id).map String.ofList

/-- The text of a byte string with U+FFFD for each malformed stretch. -/
def decodeLossy (bs : List UInt8) : String :=
  String.ofList ((scan bs).map (·.getD (Char.ofNat 0xFFFD)))

@[simp] theorem decode_nil : decode [] = some "" := by simp [decode, scan]

end FeatureGraph.Text.Utf8
