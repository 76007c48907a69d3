import FeatureGraph.Proofs.Wire.Any
import FeatureGraph.Proofs.Wire.Frame
import FeatureGraph.Wire.Query

/-! # Responses as a run over frames

What a response decodes to is found by taking its frames one after the other, until one ends it. -/
namespace FeatureGraph.QueryResponse

open Wire

/-- Rows so far, and the failure that ended the response if one did. -/
abbrev Progress := Except Fault (List (List Value) × Option Failure)

/-- Goes on with the rows so far unless the response has ended. -/
def Progress.andThen (x : Progress) (next : List (List Value) → Progress) : Progress := do
  match ← x with
  | (rows, some f) => return (rows, some f)
  | (rows, none) => next rows

def absorbAll (rows : List (List Value)) : List (List UInt8) → Progress
  | [] => .ok (rows, none)
  | m :: ms => Progress.andThen (absorb rows m) fun rows => absorbAll rows ms

namespace Progress

theorem andThen_assoc (x : Progress) (f g : List (List Value) → Progress) :
    (x.andThen f).andThen g = x.andThen fun rows => (f rows).andThen g := by
  rcases x with e | ⟨rows, _ | f'⟩ <;> rfl

theorem andThen_ok_none (rows : List (List Value)) (next : List (List Value) → Progress) :
    andThen (.ok (rows, none)) next = next rows := rfl

theorem andThen_ok (x : Progress) : (x.andThen fun rows => .ok (rows, none)) = x := by
  rcases x with e | ⟨rows, _ | f⟩ <;> rfl

end Progress

theorem absorbAll_append (rows : List (List Value)) (ms ns : List (List UInt8)) :
    absorbAll rows (ms ++ ns) = (absorbAll rows ms).andThen fun rows => absorbAll rows ns := by
  induction ms generalizing rows with
  | nil => rfl
  | cons m ms ih => simp only [List.cons_append, absorbAll, ih, Progress.andThen_assoc]

/-! ## Reading rows -/

theorem readRows_nil (done : List UInt8) (rows : List (List Value)) :
    readRows done done.length rows = .ok (rows, none) := by
  rw [readRows, if_neg (Nat.lt_irrefl _)]

/-- One frame is taken where it starts. -/
theorem readRows_frame {m : List UInt8} (hm : Framable m) (done rest : List UInt8) (rows : List (List Value)) :
    readRows (done ++ frame m ++ rest) done.length rows =
      Progress.andThen (absorb rows m) fun rows =>
        readRows (done ++ frame m ++ rest) (done ++ frame m).length rows := by
  have hpos := List.length_pos_iff.2 (frame_ne_nil m)
  rw [readRows, if_pos (by simp only [List.length_append]; omega)]
  split
  · next f hf =>
    rw [readFrame_frame hm] at hf
    cases hf
  · next message next hf =>
    rw [readFrame_frame hm] at hf
    obtain ⟨rfl, rfl⟩ := Prod.mk.inj (Except.ok.inj hf)
    rfl

/-- A response read from the start of a run of frames takes those first, whatever follows them. -/
theorem readRows_stream {ms : List (List UInt8)} (hms : ∀ m ∈ ms, Framable m) (done rest : List UInt8)
    (rows : List (List Value)) :
    readRows (done ++ stream ms ++ rest) done.length rows =
      (absorbAll rows ms).andThen fun rows =>
        readRows (done ++ stream ms ++ rest) (done ++ stream ms).length rows := by
  induction ms generalizing done rows with
  | nil => rw [absorbAll, Progress.andThen_ok_none, stream_nil, List.append_nil]
  | cons m ms ih =>
    -- the buffer stays the same; what moves is where its part that is done ends
    have hsplit : done ++ stream (m :: ms) ++ rest = done ++ frame m ++ (stream ms ++ rest) := by simp
    have htail : done ++ frame m ++ (stream ms ++ rest) = done ++ frame m ++ stream ms ++ rest := by simp
    rw [hsplit, readRows_frame (hms m (by simp)), absorbAll, Progress.andThen_assoc]
    congr 1
    funext rows
    rw [htail, ih (fun m' hm => hms m' (by simp [hm])), stream_cons, ← List.append_assoc done]

/-- Where a frame is cut the response is refused. -/
theorem readRows_cut {m part rest : List UInt8} (hm : Framable m) (hsplit : part ++ rest = frame m)
    (hpart : part ≠ []) (hrest : rest ≠ []) (done : List UInt8) (rows : List (List Value)) :
    ∃ f, readRows (done ++ part) done.length rows = .error (.failure f) ∧ f.kind = .decode := by
  obtain ⟨f, hf, hkind⟩ := readFrame_cut hm done hsplit hrest
  have hpos := List.length_pos_iff.2 hpart
  refine ⟨f, ?_, hkind⟩
  rw [readRows, if_pos (by simp only [List.length_append]; omega)]
  split
  · next f' hf' =>
    rw [hf] at hf'
    cases hf'
    rfl
  · next message next hf' =>
    rw [hf] at hf'
    cases hf'

/-! ## Taking frames -/

def appended (rows : List (List Value)) (more : List (List Any)) : Progress :=
  ((more.mapM Any.valueAll).mapError .defect).map fun more => (rows ++ more, none)

theorem appended_of_mapM {rows more : List (List Value)} {xs : List (List Any)}
    (h : xs.mapM Any.valueAll = .ok more) : appended rows xs = .ok (rows ++ more, none) := by
  rw [appended, h]
  rfl

@[simp] theorem appended_nil (rows : List (List Value)) : appended rows [] = .ok (rows, none) := by
  have h : ([] : List (List Any)).mapM Any.valueAll = .ok [] := rfl
  rw [appended_of_mapM h, List.append_nil]

theorem appended_append (rows : List (List Value)) (xs ys : List (List Any)) :
    appended rows (xs ++ ys) = (appended rows xs).andThen fun rows => appended rows ys := by
  have hmapM : (xs ++ ys).mapM Any.valueAll = do return (← xs.mapM Any.valueAll) ++ (← ys.mapM Any.valueAll) :=
    List.mapM_append
  cases hx : xs.mapM Any.valueAll with
  | error d =>
    rw [appended, appended, hmapM, hx]
    rfl
  | ok vs =>
    rw [appended_of_mapM hx, Progress.andThen_ok_none]
    cases hy : ys.mapM Any.valueAll with
    | error d =>
      rw [appended, appended, hmapM, hx, hy]
      rfl
    | ok ws =>
      have h : (xs ++ ys).mapM Any.valueAll = .ok (vs ++ ws) := by
        rw [hmapM, hx, hy]
        rfl
      rw [appended_of_mapM hy, appended_of_mapM h, List.append_assoc]

variable {m : List UInt8} {r : RowFrame}

theorem absorb_of_none (h : RowFrame.read? m = none) (rows : List (List Value)) :
    absorb rows m = .error (.failure (malformed "query frame")) := by
  rw [absorb, decoded, h]
  rfl

theorem absorb_of_error {e : ErrorMessage} (hr : RowFrame.read? m = some r) (he : r.error = some e)
    (rows : List (List Value)) : absorb rows m = .ok (rows, some (graphFailure e rows.length)) := by
  obtain ⟨xs, error⟩ := r
  cases he
  rw [absorb, decoded, hr]
  rfl

theorem absorb_of_rows (hr : RowFrame.read? m = some r) (he : r.error = none) (rows : List (List Value)) :
    absorb rows m = appended rows r.rows := by
  obtain ⟨xs, error⟩ := r
  cases he
  rw [absorb, decoded, hr, appended]
  -- the message is read and holds no error, so only the values of its rows are left to find
  change ((xs.mapM Any.valueAll).mapError Fault.defect >>= fun more => pure (rows ++ more, none)) = _
  cases xs.mapM Any.valueAll <;> rfl

/-- Frames without an error add their rows in order. -/
theorem absorbAll_of_rows {ms : List (List UInt8)} {rs : List RowFrame}
    (hrs : ms.map RowFrame.read? = rs.map some) (hfree : ∀ r ∈ rs, r.error = none) (rows : List (List Value)) :
    absorbAll rows ms = appended rows (rs.flatMap (·.rows)) := by
  induction ms generalizing rs rows with
  | nil =>
    obtain rfl : rs = [] := by simpa using hrs.symm
    simp [absorbAll]
  | cons m ms ih =>
    cases rs with
    | nil => cases hrs
    | cons r rs =>
      obtain ⟨hr, hrs⟩ := List.cons.inj hrs
      rw [absorbAll, absorb_of_rows hr (hfree r (by simp)), List.flatMap_cons, appended_append]
      congr 1
      funext rows
      exact ih hrs (fun r' h => hfree r' (by simp [h])) rows

/-! ## Whole responses -/

def withHeader (h : Header) (p : List (List Value) × Option Failure) : QueryResponse :=
  { header := some (.ofHeader h), rows := p.1, error := p.2 }

def withoutHeader (p : List (List Value) × Option Failure) : QueryResponse := { rows := p.1, error := p.2 }

/-- The header is what the first message reads as. -/
theorem readHeader_frame (hm : Framable m) (rest : List UInt8) :
    readHeader (frame m ++ rest) =
      (decoded "query header" (Header.read? m)).map fun h => (h, (frame m).length) := by
  have hframe := readFrame_frame hm [] rest
  rw [List.nil_append, List.length_nil] at hframe
  rw [readHeader, hframe]
  change (decoded "query header" (Header.read? m) >>= fun h => pure (h, (frame m).length)) = _
  cases Header.read? m <;> rfl

theorem readHeader_of_read? {h : Header} (hm : Framable m) (hh : Header.read? m = some h) (rest : List UInt8) :
    readHeader (frame m ++ rest) = .ok (h, (frame m).length) := by
  rw [readHeader_frame hm, hh]
  rfl

/-- After a header without an error the frames are taken one after the other, and then what follows them. -/
theorem decode_of_header {h : Header} {ms : List (List UInt8)} (hm : Framable m) (hh : Header.read? m = some h)
    (he : h.error = none) (hms : ∀ m ∈ ms, Framable m) (rest : List UInt8) :
    decode (stream (m :: ms) ++ rest) =
      ((absorbAll [] ms).andThen fun rows =>
        readRows (stream (m :: ms) ++ rest) (stream (m :: ms)).length rows).map (withHeader h) := by
  have hrows := readRows_stream hms (frame m) rest []
  have hread := readHeader_of_read? hm hh (stream ms ++ rest)
  rw [← List.append_assoc, ← stream_cons] at hread
  rw [← stream_cons] at hrows
  rw [← hrows, decode, hread]
  obtain ⟨transform, keys, exceededLimit, error⟩ := h
  cases he
  rfl

theorem decode_stream_of_header {h : Header} {ms : List (List UInt8)} (hm : Framable m)
    (hh : Header.read? m = some h) (he : h.error = none) (hms : ∀ m ∈ ms, Framable m) :
    decode (stream (m :: ms)) = (absorbAll [] ms).map (withHeader h) := by
  have h := decode_of_header hm hh he hms []
  simp only [List.append_nil, readRows_nil, Progress.andThen_ok] at h
  exact h

theorem decode_of_header_error {h : Header} {e : ErrorMessage} (hm : Framable m) (hh : Header.read? m = some h)
    (he : h.error = some e) (rest : List UInt8) :
    decode (frame m ++ rest) = .ok { header := some (.ofHeader h), error := some (graphFailure e 0) } := by
  obtain ⟨transform, keys, exceededLimit, error⟩ := h
  cases he
  rw [decode, readHeader_of_read? hm hh rest]
  rfl

/-- Where no header can be read the response is frames from the start. -/
theorem decode_of_noHeader {buffer : List UInt8} {f : Failure} (h : readHeader buffer = .error f) :
    decode buffer = (readRows buffer 0 []).map withoutHeader := by
  rw [decode, h]
  rfl

end FeatureGraph.QueryResponse
