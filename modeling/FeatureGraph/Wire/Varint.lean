/-! # Whole numbers as bytes of seven bits

The lowest bits come first, and every byte but the last has its high bit set. A number takes ten bytes
at most and counts modulo `2 ^ 64`. -/
namespace FeatureGraph.Wire.Varint

def encode (n : Nat) : List UInt8 :=
  if n < 128 then [.ofNat n] else .ofNat (n % 128 + 128) :: encode (n / 128)
termination_by n
decreasing_by omega

/-- The number at the front of some bytes, of at most `limit` bytes, and what follows it. -/
def readFrom : Nat → List UInt8 → Option (Nat × List UInt8)
  | 0, _ => none
  | _ + 1, [] => none
  | limit + 1, b :: r =>
    if b.toNat < 128 then some (b.toNat, r)
    else (readFrom limit r).map fun p => (b.toNat - 128 + 128 * p.1, p.2)

def read (bs : List UInt8) : Option (Nat × List UInt8) :=
  (readFrom 10 bs).map fun p => (p.1 % 0x10000000000000000, p.2)

theorem readFrom_length {limit : Nat} {bs r : List UInt8} {n : Nat}
    (h : readFrom limit bs = some (n, r)) : r.length < bs.length := by
  induction limit generalizing bs n r with
  | zero => simp [readFrom] at h
  | succ limit ih =>
    cases bs with
    | nil => simp [readFrom] at h
    | cons b bs =>
      simp only [readFrom] at h
      split at h
      · cases h; simp
      · obtain ⟨⟨m, s⟩, hs, hp⟩ := Option.map_eq_some_iff.1 h
        cases hp
        have := ih hs
        simp
        omega

/-- Reading takes at least one byte. -/
theorem read_length {bs r : List UInt8} {n : Nat} (h : read bs = some (n, r)) : r.length < bs.length := by
  obtain ⟨⟨m, s⟩, hs, hp⟩ := Option.map_eq_some_iff.1 h
  cases hp
  exact readFrom_length hs

/-- A number of some bits is read back, and what follows it is left. -/
theorem readFrom_encode (n : Nat) (r : List UInt8) (limit : Nat) (h : n < Nat.pow 128 limit) (hl : 0 < limit) :
    readFrom limit (encode n ++ r) = some (n, r) := by
  induction limit generalizing n with
  | zero => omega
  | succ limit ih =>
    rw [encode]
    split
    · next hn => simp [readFrom, Nat.mod_eq_of_lt (show n < 256 by omega), hn]
    · next hn =>
      have hlim : 0 < limit := by
        rcases Nat.eq_zero_or_pos limit with rfl | h0
        · simp at h; omega
        · exact h0
      have hd : n / 128 < Nat.pow 128 limit := by
        rw [show Nat.pow 128 (limit + 1) = Nat.pow 128 limit * 128 from rfl] at h
        omega
      have hb : (UInt8.ofNat (n % 128 + 128)).toNat = n % 128 + 128 := by
        rw [UInt8.toNat_ofNat']
        omega
      rw [List.cons_append, readFrom, hb, if_neg (by omega), ih _ hd hlim]
      simp
      omega

theorem read_encode {n : Nat} (h : n < 0x10000000000000000) (r : List UInt8) : read (encode n ++ r) = some (n, r) := by
  rw [read, readFrom_encode n r 10 (Nat.lt_of_lt_of_le h (by decide)) (by omega), Option.map_some, Nat.mod_eq_of_lt h]

/-- Every number of some bytes in order; none where the bytes end inside one. -/
def readAll (bs : List UInt8) : Option (List Nat) :=
  match bs with
  | [] => some []
  | b :: r =>
    match _h : read (b :: r) with
    | some (n, rest) => (readAll rest).map (n :: ·)
    | none => none
termination_by bs.length
decreasing_by exact read_length _h

end FeatureGraph.Wire.Varint
