import FeatureGraph.Wire.Frame

/-! # Streams of framed messages

A stream read at the start of one of its frames gives the message of that frame. Where a stream is cut
inside a frame nothing more can be read. -/
namespace FeatureGraph.Wire

namespace Varint

/-- What follows a number does not change it. -/
theorem readFrom_append {limit n : Nat} {bs r : List UInt8} (h : readFrom limit bs = some (n, r)) (s : List UInt8) :
    readFrom limit (bs ++ s) = some (n, r ++ s) := by
  induction limit generalizing bs n r with
  | zero => simp [readFrom] at h
  | succ limit ih =>
    cases bs with
    | nil => simp [readFrom] at h
    | cons b bs =>
      rw [List.cons_append, readFrom]
      rw [readFrom] at h
      split
      · next hb =>
        rw [if_pos hb] at h
        cases h
        rfl
      · next hb =>
        rw [if_neg hb] at h
        obtain ⟨⟨m, r'⟩, hm, he⟩ := Option.map_eq_some_iff.1 h
        cases he
        rw [ih hm]
        rfl

theorem read_append {n : Nat} {bs r : List UInt8} (h : read bs = some (n, r)) (s : List UInt8) :
    read (bs ++ s) = some (n, r ++ s) := by
  obtain ⟨⟨m, r'⟩, hm, he⟩ := Option.map_eq_some_iff.1 h
  cases he
  rw [read, readFrom_append hm]
  rfl

end Varint

/-- The length of a message fits its prefix. No message reaches 2 GiB, so every one that is written does. -/
def Framable (message : List UInt8) : Prop := message.length < 0x100000000

instance (message : List UInt8) : Decidable (Framable message) := inferInstanceAs (Decidable (_ < _))

variable {m : List UInt8}

theorem frame_ne_nil (m : List UInt8) : frame m ≠ [] := by
  intro h
  have hread := Varint.read_length (Varint.read_encode (n := 0) (by decide) (frame m))
  rw [frame, List.append_eq_nil_iff] at h
  rw [Varint.encode] at h
  split at h <;> cases h.1

theorem read_frame (hm : Framable m) (rest : List UInt8) :
    Varint.read (frame m ++ rest) = some (m.length, m ++ rest) := by
  rw [frame, List.append_assoc, Varint.read_encode (Nat.lt_trans hm (by decide))]

theorem readFrame_frame (hm : Framable m) (done rest : List UInt8) :
    readFrame (done ++ frame m ++ rest) done.length = .ok (m, (done ++ frame m).length) := by
  have hsize : m.length % 0x100000000 = m.length := Nat.mod_eq_of_lt hm
  rw [readFrame, List.append_assoc, List.drop_left, read_frame hm]
  simp only [hsize]
  rw [if_pos (by simp), List.take_left]
  simp only [List.length_append]
  congr 2
  omega

/-- Neither a cut length nor a cut message can be read. -/
theorem readFrame_cut (hm : Framable m) (done : List UInt8) {part rest : List UInt8}
    (hsplit : part ++ rest = frame m) (hrest : rest ≠ []) :
    ∃ f, readFrame (done ++ part) done.length = .error f ∧ f.kind = .decode := by
  rw [readFrame, List.drop_left]
  split
  · exact ⟨_, rfl, rfl⟩
  · next n r hread =>
    -- a length that the part has is the length of the whole message, of which bytes are missing
    have hwhole := Varint.read_append hread rest
    have hframe := read_frame hm []
    rw [List.append_nil, ← hsplit, hwhole] at hframe
    obtain ⟨rfl, hr⟩ := Prod.mk.inj (Option.some.inj hframe)
    have hlen := congrArg List.length hr
    have hpos := List.length_pos_iff.2 hrest
    simp only [List.length_append, List.append_nil] at hlen
    have hsize : m.length % 0x100000000 = m.length := Nat.mod_eq_of_lt hm
    simp only [hsize]
    rw [if_neg (by omega)]
    exact ⟨_, rfl, rfl⟩

/-! ## Streams -/

def stream (ms : List (List UInt8)) : List UInt8 := ms.flatMap frame

@[simp] theorem stream_nil : stream [] = [] := rfl

@[simp] theorem stream_cons (m : List UInt8) (ms : List (List UInt8)) : stream (m :: ms) = frame m ++ stream ms := by
  simp [stream]

@[simp] theorem stream_append (ms ns : List (List UInt8)) : stream (ms ++ ns) = stream ms ++ stream ns := by
  simp [stream]

theorem take_length_stream (ms : List (List UInt8)) (k : Nat) :
    (stream ms).take (stream (ms.take k)).length = stream (ms.take k) := by
  have h : stream ms = stream (ms.take k) ++ stream (ms.drop k) := by rw [← stream_append, List.take_append_drop]
  rw [h, List.take_left]

/-- A stream is cut after some of its frames or inside one of them. -/
theorem cut_cases {ms : List (List UInt8)} {n : Nat} (hn : n ≤ (stream ms).length) :
    (∃ k ≤ ms.length, n = (stream (ms.take k)).length) ∨
      ∃ done m todo part rest, ms = done ++ m :: todo ∧ part ++ rest = frame m ∧ part ≠ [] ∧ rest ≠ [] ∧
        (stream ms).take n = stream done ++ part := by
  induction ms generalizing n with
  | nil => exact .inl ⟨0, by simp, by simpa using hn⟩
  | cons m ms ih =>
    rw [stream_cons, List.length_append] at hn
    rcases Nat.lt_or_ge n (frame m).length with hlt | hge
    -- the cut lies in the first frame, maybe at its start
    · rcases Nat.eq_zero_or_pos n with rfl | hpos
      · exact .inl ⟨0, by simp, rfl⟩
      · refine .inr ⟨[], m, ms, (frame m).take n, (frame m).drop n, rfl, List.take_append_drop .., ?_, ?_, ?_⟩
        · exact List.length_pos_iff.1 (by rw [List.length_take]; omega)
        · exact List.length_pos_iff.1 (by rw [List.length_drop]; omega)
        · rw [stream_cons, List.take_append_of_le_length (Nat.le_of_lt hlt)]
          rfl
    · rcases ih (n := n - (frame m).length) (by omega) with ⟨k, hk, hcut⟩ | hinside
      · refine .inl ⟨k + 1, by simpa using hk, ?_⟩
        rw [List.take_succ_cons, stream_cons, List.length_append]
        omega
      · obtain ⟨done, m', todo, part, rest, rfl, hsplit, hpart, hrest, htake⟩ := hinside
        refine .inr ⟨m :: done, m', todo, part, rest, rfl, hsplit, hpart, hrest, ?_⟩
        rw [stream_cons, List.take_append, htake, List.take_of_length_le hge, stream_cons, List.append_assoc]

end FeatureGraph.Wire
