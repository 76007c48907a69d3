import FeatureGraph.Proofs.Response.Failure
import FeatureGraph.Proofs.Wire.LengthPrefix

/-! # Reading goes forward

Each message that is read ends at a later position inside the bytes, so the frames of a response are read in no more
steps than it has bytes. From messages that are framed one after the other the same messages are read, up to the end. -/
namespace FeatureGraph

namespace Wire

variable {buffer m : List UInt8} {pos next : Nat}

/-- A message that is read stands behind a length. -/
theorem exists_front_of_readFrame (h : readFrame buffer pos = .ok (m, next)) :
    ∃ front rest size, front ≠ [] ∧ buffer.drop pos = front ++ rest ∧ size ≤ rest.length ∧ m = rest.take size ∧
      next = pos + front.length + size := by
  rw [readFrame] at h
  split at h
  · cases h
  · next n rest hread =>
    obtain ⟨front, v, hsplit, hfront, -, -⟩ := Varint.exists_denotes_of_read hread
    have hlength := length_eq_of_drop_eq hsplit hfront.ne_nil
    dsimp only at h
    split at h
    · next hle =>
      obtain ⟨rfl, rfl⟩ := Prod.mk.inj (Except.ok.inj h)
      exact ⟨front, rest, _, hfront.ne_nil, hsplit, hle, rfl, by omega⟩
    · cases h

/-- A message ends where the next position says, and starts behind the position at which it was read. -/
theorem suffix_of_readFrame (h : readFrame buffer pos = .ok (m, next)) :
    pos + m.length < next ∧ next ≤ buffer.length ∧ m <:+ buffer.take next := by
  obtain ⟨front, rest, size, hfront, hsplit, hsize, rfl, rfl⟩ := exists_front_of_readFrame h
  have hlength := length_eq_of_drop_eq hsplit hfront
  have hpos := List.length_pos_iff.2 hfront
  have htake : buffer.take (pos + front.length + size) = buffer.take pos ++ front ++ rest.take size := by
    rw [Nat.add_assoc, List.take_add, hsplit, List.take_length_add_append, List.append_assoc]
  refine ⟨?_, by omega, ⟨buffer.take pos ++ front, htake.symm⟩⟩
  rw [List.length_take]
  omega

/-- Messages that are read one after the other from a position on, and the position after the last. -/
inductive ReadsThrough (buffer : List UInt8) : Nat → List (List UInt8) → Nat → Prop
  | stop (pos : Nat) : ReadsThrough buffer pos [] pos
  | read {m : List UInt8} {ms : List (List UInt8)} {pos next last : Nat} :
      readFrame buffer pos = .ok (m, next) → ReadsThrough buffer next ms last →
      ReadsThrough buffer pos (m :: ms) last

/-- Framed messages are read in order, whatever stands before and behind them. -/
theorem readsThrough_stream {ms : List (List UInt8)} (hms : ∀ m ∈ ms, Framable m) (done rest : List UInt8) :
    ReadsThrough (done ++ stream ms ++ rest) done.length ms (done ++ stream ms).length := by
  induction ms generalizing done with
  | nil =>
    rw [stream_nil, List.append_nil]
    exact .stop _
  | cons m ms ih =>
    obtain ⟨hm, hrest⟩ := List.forall_mem_cons.1 hms
    have hread := readFrame_frame hm done (stream ms ++ rest)
    have htail := ih hrest (done ++ frame m)
    simp only [stream_cons, List.append_assoc] at hread htail ⊢
    exact .read hread htail

end Wire

namespace QueryResponse

open Wire

/-- Taking the frames from a position on, after some rows, ends with a result after some number of reads. -/
inductive Ends (buffer : List UInt8) : Nat → List (List Value) → Nat → Progress → Prop
  | done {pos : Nat} {rows : List (List Value)} :
      buffer.length ≤ pos → Ends buffer pos rows 0 (.ok (rows, none))
  | unreadable {pos : Nat} {rows : List (List Value)} {f : Failure} :
      pos < buffer.length → readFrame buffer pos = .error f → Ends buffer pos rows 1 (.error (.failure f))
  | refused {m : List UInt8} {pos next : Nat} {rows : List (List Value)} {e : Fault} :
      pos < buffer.length → readFrame buffer pos = .ok (m, next) → absorb rows m = .error e →
      Ends buffer pos rows 1 (.error e)
  | failed {m : List UInt8} {pos next : Nat} {rows rows' : List (List Value)} {f : Failure} :
      pos < buffer.length → readFrame buffer pos = .ok (m, next) → absorb rows m = .ok (rows', some f) →
      Ends buffer pos rows 1 (.ok (rows', some f))
  | more {m : List UInt8} {pos next reads : Nat} {rows rows' : List (List Value)} {x : Progress} :
      pos < buffer.length → readFrame buffer pos = .ok (m, next) → absorb rows m = .ok (rows', none) →
      Ends buffer next rows' reads x → Ends buffer pos rows (reads + 1) x

/-- Each read leaves fewer bytes, so there are no more reads than bytes. -/
theorem exists_ends (buffer : List UInt8) (pos : Nat) (rows : List (List Value)) :
    ∃ reads ≤ buffer.length - pos, Ends buffer pos rows reads (readRows buffer pos rows) := by
  induction hn : buffer.length - pos using Nat.strongRecOn generalizing pos rows with
  | ind n ih =>
    by_cases hpos : pos < buffer.length
    · cases hread : readFrame buffer pos with
      | error f =>
        rw [readRows_of_error hpos hread]
        exact ⟨1, by omega, .unreadable hpos hread⟩
      | ok p =>
        obtain ⟨m, next⟩ := p
        have hnext := readFrame_next hread
        rw [readRows_of_ok hpos hread]
        cases habsorb : absorb rows m with
        | error e => exact ⟨1, by omega, .refused hpos hread habsorb⟩
        | ok q =>
          obtain ⟨rows', _ | f⟩ := q
          · obtain ⟨reads, hreads, hends⟩ := ih (buffer.length - next) (by omega) next rows' rfl
            exact ⟨reads + 1, by omega, .more hpos hread habsorb hends⟩
          · exact ⟨1, by omega, .failed hpos hread habsorb⟩
    · rw [readRows, if_neg hpos]
      exact ⟨0, by omega, .done (by omega)⟩

/-- A message that is read lies between the position at which it was read and the next one, just before that; the
frames of a response are taken in no more reads than bytes are left; and messages that are framed one after the other
are read as they are, up to the end. -/
theorem framing_goes_forward (buffer : List UInt8) (pos : Nat) {ms : List (List UInt8)} (hms : ∀ m ∈ ms, Framable m) :
    (∀ m next, readFrame buffer pos = .ok (m, next) →
      pos + m.length < next ∧ next ≤ buffer.length ∧ m <:+ buffer.take next) ∧
    (∀ rows, ∃ reads ≤ buffer.length - pos, Ends buffer pos rows reads (readRows buffer pos rows)) ∧
    ReadsThrough (stream ms) 0 ms (stream ms).length := by
  have hstream := readsThrough_stream hms [] []
  rw [List.nil_append, List.append_nil] at hstream
  exact ⟨fun m next h => suffix_of_readFrame h, exists_ends buffer pos, hstream⟩

/-- Messages whose lengths take one byte and two, between empty ones. -/
theorem framing_goes_forward_lengths :
    (∀ m ∈ [[], List.replicate 127 0, [], List.replicate 128 0], Framable m) ∧
      readFrame [0x00, 0x02, 0x61, 0x62, 0x63] 1 = .ok ([0x61, 0x62], 4) ∧
      [0x61, 0x62] <:+ ([0x00, 0x02, 0x61, 0x62, 0x63] : List UInt8).take 4 ∧
      ReadsThrough (stream [[], List.replicate 127 0, [], List.replicate 128 0]) 0
        [[], List.replicate 127 0, [], List.replicate 128 0]
        (stream [[], List.replicate 127 0, [], List.replicate 128 0]).length := by
  have hms : ∀ m ∈ [[], List.replicate 127 0, [], List.replicate 128 0], Framable m := by
    simp [Framable]
  have hread : readFrame [0x00, 0x02, 0x61, 0x62, 0x63] 1 = .ok ([0x61, 0x62], 4) := by
    simp [readFrame, Varint.read, Varint.readFrom]
  obtain ⟨hforward, -, hstream⟩ := framing_goes_forward [0x00, 0x02, 0x61, 0x62, 0x63] 1 hms
  exact ⟨hms, hread, (hforward _ _ hread).2.2, hstream⟩

end QueryResponse
end FeatureGraph
