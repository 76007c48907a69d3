import FeatureGraph.Proofs.Wire.Frame

/-! # The length in front of a message

A length of up to ten bytes may stand in front of a message, and its low 32 bits are what is read of it. A
message therefore has its length where that is below `2 ^ 32`; a greater one is taken for a smaller one, unless
fewer bytes follow than even the smaller one asks for. -/
namespace FeatureGraph.Wire

namespace Varint

/-- The number that bytes of seven bits make up, the lowest bits first. Every byte but the last has its high bit
set. -/
inductive Denotes : List UInt8 → Nat → Prop
  | last {b : UInt8} : b.toNat < 128 → Denotes [b] b.toNat
  | more {b : UInt8} {bs : List UInt8} {n : Nat} :
      128 ≤ b.toNat → Denotes bs n → Denotes (b :: bs) (b.toNat % 128 + 128 * n)

variable {limit n v : Nat} {bs r : List UInt8}

theorem Denotes.ne_nil (h : Denotes bs v) : bs ≠ [] := by
  cases h <;> simp

theorem Denotes.readFrom (h : Denotes bs v) (hlimit : bs.length ≤ limit) (r : List UInt8) :
    readFrom limit (bs ++ r) = some (v, r) := by
  induction h generalizing limit with
  | last hb =>
    obtain ⟨limit, rfl⟩ := Nat.exists_eq_add_of_lt (show 0 < limit from hlimit)
    simp [Varint.readFrom, hb]
  | @more b bs n hb h ih =>
    cases limit with
    | zero => cases hlimit
    | succ limit =>
      have hrest : bs.length ≤ limit := by simpa using hlimit
      have hlow : b.toNat % 128 = b.toNat - 128 := by
        have := b.toNat_lt
        omega
      rw [List.cons_append, Varint.readFrom, if_neg (by omega), ih hrest, hlow]
      rfl

/-- What is read at the front of some bytes is a number of no more than so many bytes. -/
theorem exists_denotes_of_readFrom (h : readFrom limit bs = some (v, r)) :
    ∃ p, bs = p ++ r ∧ Denotes p v ∧ p.length ≤ limit := by
  induction limit generalizing bs v with
  | zero => simp [readFrom] at h
  | succ limit ih =>
    cases bs with
    | nil => simp [readFrom] at h
    | cons b bs =>
      rw [readFrom] at h
      split at h
      · next hb =>
        cases h
        exact ⟨[b], rfl, .last hb, by simp⟩
      · next hb =>
        obtain ⟨⟨m, r'⟩, hm, he⟩ := Option.map_eq_some_iff.1 h
        cases he
        obtain ⟨p, rfl, hp, hlength⟩ := ih hm
        have hlow : b.toNat % 128 = b.toNat - 128 := by
          have := b.toNat_lt
          omega
        exact ⟨b :: p, rfl, hlow ▸ .more (by omega) hp, by simpa using hlength⟩

theorem Denotes.read (h : Denotes bs v) (hlength : bs.length ≤ 10) (hv : v < 0x10000000000000000) (r : List UInt8) :
    read (bs ++ r) = some (v, r) := by
  rw [Varint.read, h.readFrom hlength, Option.map_some, Nat.mod_eq_of_lt hv]

theorem exists_denotes_of_read (h : read bs = some (n, r)) :
    ∃ p v, bs = p ++ r ∧ Denotes p v ∧ p.length ≤ 10 ∧ n = v % 0x10000000000000000 := by
  obtain ⟨⟨v, r'⟩, hv, he⟩ := Option.map_eq_some_iff.1 h
  cases he
  obtain ⟨p, hsplit, hp, hlength⟩ := exists_denotes_of_readFrom hv
  exact ⟨p, v, hsplit, hp, hlength, rfl⟩

end Varint

/-- What is read where a length ends and some bytes follow: as many of them as the length says and the position
after them, or a failure where there are fewer. -/
inductive KeepsTo (length start : Nat) (rest : List UInt8) : Except Failure (List UInt8 × Nat) → Prop
  | message : length ≤ rest.length → KeepsTo length start rest (.ok (rest.take length, start + length))
  | truncated {f : Failure} : rest.length < length → f.kind = .decode → KeepsTo length start rest (.error f)

variable {buffer front rest : List UInt8} {pos v : Nat}

theorem length_eq_of_drop_eq (hbuffer : buffer.drop pos = front ++ rest) (hfront : front ≠ []) :
    buffer.length = pos + front.length + rest.length := by
  have hpos := List.length_pos_iff.2 hfront
  have hlength := congrArg List.length hbuffer
  rw [List.length_drop, List.length_append] at hlength
  omega

/-- The low 32 bits of a length are kept to. -/
theorem readFrame_keepsTo_low (hfront : Varint.Denotes front v) (hsize : front.length ≤ 10)
    (hv : v < 0x10000000000000000) (hbuffer : buffer.drop pos = front ++ rest) :
    KeepsTo (v % 0x100000000) (pos + front.length) rest (readFrame buffer pos) := by
  have hlength := length_eq_of_drop_eq hbuffer hfront.ne_nil
  rw [readFrame, hbuffer, hfront.read hsize hv]
  dsimp only
  split
  · next hle =>
    rw [show buffer.length - (rest.length - v % 0x100000000) = pos + front.length + v % 0x100000000 by omega]
    exact .message hle
  · next hgt => exact .truncated (by omega) rfl

/-- Of any length in front of some bytes the low 32 bits are kept to. So the length itself is kept to if it has no
more than those, or if fewer bytes follow than they ask for, and in no other case. -/
theorem readFrame_keepsTo_iff (hfront : Varint.Denotes front v) (hsize : front.length ≤ 10)
    (hv : v < 0x10000000000000000) (hbuffer : buffer.drop pos = front ++ rest) :
    KeepsTo (v % 0x100000000) (pos + front.length) rest (readFrame buffer pos) ∧
      (KeepsTo v (pos + front.length) rest (readFrame buffer pos) ↔
        v < 0x100000000 ∨ rest.length < v % 0x100000000) := by
  have hlow := readFrame_keepsTo_low hfront hsize hv hbuffer
  refine ⟨hlow, ?_⟩
  generalize readFrame buffer pos = x at hlow
  by_cases hsmall : v < 0x100000000
  · rw [Nat.mod_eq_of_lt hsmall] at hlow
    exact iff_of_true hlow (.inl hsmall)
  · have hless : v % 0x100000000 < v := by omega
    cases hlow with
    | message hle =>
      -- the position after the message tells the two lengths apart
      refine iff_of_false (fun h => ?_) (by omega)
      generalize hmessage : rest.take (v % 0x100000000) = m at h
      generalize hnext : pos + front.length + v % 0x100000000 = next at h
      cases h
      omega
    | truncated hlt hkind => exact iff_of_true (.truncated (by omega) hkind) (.inr hlt)

/-- The one byte that follows a length of `2 ^ 32 + 1` is taken for the message. -/
theorem readFrame_keepsTo_iff_wrapping :
    Varint.Denotes [0x81, 0x80, 0x80, 0x80, 0x10] 0x100000001 ∧
      KeepsTo 1 5 [0x61] (readFrame [0x81, 0x80, 0x80, 0x80, 0x10, 0x61] 0) ∧
      ¬KeepsTo 0x100000001 5 [0x61] (readFrame [0x81, 0x80, 0x80, 0x80, 0x10, 0x61] 0) := by
  have hfront : Varint.Denotes [0x81, 0x80, 0x80, 0x80, 0x10] 0x100000001 :=
    .more (by decide) (.more (by decide) (.more (by decide) (.more (by decide) (.last (by decide)))))
  have hbuffer : List.drop 0 [0x81, 0x80, 0x80, 0x80, 0x10, 0x61] =
      [0x81, 0x80, 0x80, 0x80, 0x10] ++ ([0x61] : List UInt8) := rfl
  obtain ⟨hlow, hiff⟩ := readFrame_keepsTo_iff hfront (by decide) (by decide) hbuffer
  exact ⟨hfront, hlow, fun h => absurd (hiff.1 h) (by decide)⟩

/-- A length of `2 ^ 32` with nothing behind it is no truncated message: an empty one is read. -/
theorem not_keepsTo_of_empty : ¬KeepsTo 0x100000000 5 [] (readFrame [0x80, 0x80, 0x80, 0x80, 0x10] 0) := by
  have hread : readFrame [0x80, 0x80, 0x80, 0x80, 0x10] 0 = .ok ([], 5) := by
    simp [readFrame, Varint.read, Varint.readFrom]
  rw [hread]
  intro h
  cases h

end FeatureGraph.Wire
