import FeatureGraph.Proofs.Response.RoundTrip

/-! # Cut responses

A response that is cut after one of its messages is the response with fewer frames. One that is cut
anywhere else is refused: a cut header is not taken for a frame, because it is cut as a frame too. -/
namespace FeatureGraph.QueryResponse

open Wire

variable {frames : List (List (List Any))} {transform : Option (Quantization Float)} {keys : List String}
  {error : Option ErrorMessage}

def wholeFrames (frames : List (List (List Any))) (k : Nat) : List (List (List Any)) := frames.take (k - 1)

theorem length_messages :
    (messages frames transform keys error).length = frames.length + error.toList.length + 1 := by
  simp [messages, frameMessages]

/-- Some of the messages are the messages of a shorter response. -/
theorem take_messages (k : Nat) :
    (messages frames transform keys error).take (k + 1) =
      messages (frames.take k) transform keys (if k ≤ frames.length then none else error) := by
  rw [messages, List.take_succ_cons, messages, frameMessages, frameMessages]
  congr 1
  split
  · next hk =>
    rw [List.take_append_of_le_length (by simpa using hk), ← List.map_take]
    simp
  -- more messages than the header and the frames of rows are all messages
  · next hk =>
    rw [List.take_of_length_le (by cases error <;> simp <;> omega), List.take_of_length_le (by omega)]

theorem decode_nil : decode [] = .ok {} := by
  have h : readHeader [] = .error (.of .decode "invalid length prefix" [("offset", .int 0)]) := rfl
  rw [decode_of_noHeader h]
  exact congrArg (Except.map withoutHeader) (readRows_nil [] [])

/-- Inside its first frame a response is refused, with a header or without. -/
theorem decode_cut_header {m part rest : List UInt8} (hm : Framable m) (hsplit : part ++ rest = frame m)
    (hpart : part ≠ []) (hrest : rest ≠ []) : ∃ f, decode part = .error (.failure f) ∧ f.kind = .decode := by
  obtain ⟨f, hf, -⟩ := readFrame_cut hm [] hsplit hrest
  obtain ⟨g, hg, hkind⟩ := readRows_cut hm hsplit hpart hrest [] []
  rw [List.nil_append, List.length_nil] at hf hg
  have hheader : readHeader part = .error f := by
    rw [readHeader, hf]
    rfl
  refine ⟨g, ?_, hkind⟩
  rw [decode_of_noHeader hheader, hg]
  rfl

/-- The frames before a given one hold rows only: the error stands in the last. -/
theorem frames_before {done todo : List (List UInt8)} {m : List UInt8}
    (h : frameMessages frames error = done ++ m :: todo) :
    ∃ k, done = (frames.take k).map fun rows => RowFrame.encode { rows } := by
  have hlength := congrArg List.length h
  simp only [frameMessages, List.length_append, List.length_map, List.length_cons] at hlength
  have herror : error.toList.length ≤ 1 := by cases error <;> simp
  refine ⟨done.length, ?_⟩
  calc done = (frameMessages frames error).take done.length := by rw [h, List.take_left]
    _ = (frames.map fun rows => RowFrame.encode { rows }).take done.length := by
      rw [frameMessages, List.take_append_of_le_length (by rw [List.length_map]; omega)]
    _ = (frames.take done.length).map fun rows => RowFrame.encode { rows } := List.map_take.symm

theorem decode_cut_inside (hvalues : ∀ xs ∈ frames, ∀ row ∈ xs, ∀ v ∈ row, v.WellFormed Storable)
    (hm : ∀ m ∈ messages frames transform keys error, Framable m) {done todo : List (List UInt8)}
    {m part rest : List UInt8} (hsplit : messages frames transform keys error = done ++ m :: todo)
    (hframe : part ++ rest = frame m) (hpart : part ≠ []) (hrest : rest ≠ []) :
    ∃ f, decode (stream done ++ part) = .error (.failure f) ∧ f.kind = .decode := by
  have hmm : Framable m := hm m (by rw [hsplit]; simp)
  cases done with
  | nil => exact decode_cut_header hmm hframe hpart hrest
  | cons header done =>
    obtain ⟨rfl, hframes⟩ := List.cons.inj hsplit
    have hheader := hm _ (List.mem_cons_self ..)
    have hdone : ∀ m ∈ done, Framable m := fun m' h =>
      hm m' (List.mem_cons_of_mem _ (by rw [hframes]; exact List.mem_append_left _ h))
    -- a header was read; before the cut stand frames of rows, which are taken or refused
    obtain ⟨k, rfl⟩ := frames_before hframes
    have hsome : ∀ xs ∈ frames.take k, ∀ row ∈ xs, ∀ v ∈ row, v.WellFormed Storable := fun xs h =>
      hvalues xs (List.mem_of_mem_take h)
    obtain ⟨rows, hrows⟩ := exists_mapM_flatten_eq_ok hsome
    rw [decode_of_header hheader (read?_headerOf hheader) rfl hdone,
      absorbAll_rows hsome fun xs h => hdone _ (List.mem_map_of_mem h), appended_of_mapM hrows]
    split
    · obtain ⟨f, hf, hkind⟩ := readRows_cut hmm hframe hpart hrest (stream (_ :: _)) ([] ++ rows)
      rw [Progress.andThen_ok_none, hf]
      exact ⟨f, rfl, hkind⟩
    · exact ⟨malformed "query frame", rfl, rfl⟩

theorem decode_cut_after (hvalues : ∀ xs ∈ frames, ∀ row ∈ xs, ∀ v ∈ row, v.WellFormed Storable)
    (hcode : ∀ e ∈ error, IsInt32 e.code) (hm : ∀ m ∈ messages frames transform keys error, Framable m) {k : Nat}
    (hk : k ≤ (messages frames transform keys error).length) :
    ∃ rows, (wholeFrames frames k).flatten.mapM Any.valueAll = .ok rows ∧
      decode (stream ((messages frames transform keys error).take k)) =
        if ∀ xs ∈ wholeFrames frames k, RowFrame.Shallow { rows := xs } then
          .ok
            { header := if k = 0 then none else some { transform, keys }
              rows
              error := if k = (messages frames transform keys error).length then
                error.map fun e => graphFailure e rows.length else none }
        else .error (.failure (malformed "query frame")) := by
  cases k with
  | zero =>
    refine ⟨[], rfl, ?_⟩
    have hnone : ∀ xs ∈ wholeFrames frames 0, RowFrame.Shallow { rows := xs } := fun xs h => nomatch h
    rw [List.take_zero, stream_nil, decode_nil, length_messages, if_pos hnone, if_pos rfl, if_neg (by omega)]
  | succ k =>
    have hsome : ∀ xs ∈ frames.take k, ∀ row ∈ xs, ∀ v ∈ row, v.WellFormed Storable := fun xs h =>
      hvalues xs (List.mem_of_mem_take h)
    obtain ⟨rows, hrows⟩ := exists_mapM_flatten_eq_ok hsome
    have hmk : ∀ m ∈ messages (frames.take k) transform keys (if k ≤ frames.length then none else error),
        Framable m := fun m h => hm m (List.mem_of_mem_take (by rwa [take_messages]))
    have hck : ∀ e ∈ (if k ≤ frames.length then none else error), IsInt32 e.code := by
      split
      · simp
      · exact hcode
    have herror : (if k ≤ frames.length then none else error).map (fun e => graphFailure e rows.length) =
        if k + 1 = (messages frames transform keys error).length then
          error.map fun e => graphFailure e rows.length else none := by
      cases error with
      | none => simp
      | some e =>
        have hall : (messages frames transform keys (some e)).length = frames.length + 2 := length_messages
        rw [hall] at hk ⊢
        by_cases h : k ≤ frames.length
        · rw [if_pos h, if_neg (by omega)]
          rfl
        · rw [if_neg h, if_pos (by omega)]
    refine ⟨rows, hrows, ?_⟩
    rw [take_messages, decode_messages hsome hck hmk hrows, herror]
    rfl

/-- A response that is cut decodes if it ends with a message and no value in it is nested too deep. Its rows are
then those of the frames it has, and its error is set if the frame of the error is among them. In every other
case decoding fails. -/
theorem decode_take_encodeResponse (hvalues : ∀ rows ∈ frames, ∀ row ∈ rows, ∀ v ∈ row, v.WellFormed Storable)
    (hcode : ∀ e ∈ error, IsInt32 e.code) (hlength : ∀ m ∈ messages frames transform keys error, Framable m) {n : Nat}
    (hn : n ≤ (encodeResponse frames transform keys error).length) :
    let ms := messages frames transform keys error
    let result := decode ((encodeResponse frames transform keys error).take n)
    ((∃ r, result = .ok r) ↔ ∃ k ≤ ms.length, n = (stream (ms.take k)).length ∧
      ∀ rows ∈ wholeFrames frames k, RowFrame.Shallow { rows }) ∧
    (∀ r, result = .ok r → ∀ k ≤ ms.length, n = (stream (ms.take k)).length →
      (wholeFrames frames k).flatten.mapM Any.valueAll = .ok r.rows ∧
      r.error = if k = ms.length then error.map fun e => graphFailure e r.rows.length else none) ∧
    ((¬∃ r, result = .ok r) → ∃ f, result = .error (.failure f) ∧ f.kind = .decode) := by
  intro ms result
  have hafter (k : Nat) (hk : k ≤ ms.length) (hnk : n = (stream (ms.take k)).length) :
      result = decode (stream (ms.take k)) := by
    rw [← take_length_stream, ← hnk, ← encodeResponse_eq_stream]
  have hinside (hcut : ¬∃ k ≤ ms.length, n = (stream (ms.take k)).length) :
      ∃ f, result = .error (.failure f) ∧ f.kind = .decode := by
    rw [encodeResponse_eq_stream] at hn
    rcases cut_cases hn with hboundary | ⟨done, m, todo, part, rest, hsplit, hframe, hpart, hrest, htake⟩
    · exact (hcut hboundary).elim
    · obtain ⟨f, hf, hkind⟩ := decode_cut_inside hvalues hlength hsplit hframe hpart hrest
      refine ⟨f, ?_, hkind⟩
      rw [← hf, ← htake, ← encodeResponse_eq_stream]
  refine ⟨?_, ?_, ?_⟩
  · constructor
    · rintro ⟨r, hr⟩
      by_cases hcut : ∃ k ≤ ms.length, n = (stream (ms.take k)).length
      · obtain ⟨k, hk, hnk⟩ := hcut
        refine ⟨k, hk, hnk, ?_⟩
        obtain ⟨rows, -, hdecode⟩ := decode_cut_after hvalues hcode hlength hk
        by_contra hdeep
        rw [hafter k hk hnk, hdecode, if_neg hdeep] at hr
        cases hr
      · obtain ⟨f, hf, -⟩ := hinside hcut
        rw [hf] at hr
        cases hr
    · rintro ⟨k, hk, hnk, hshallow⟩
      obtain ⟨rows, -, hdecode⟩ := decode_cut_after hvalues hcode hlength hk
      rw [if_pos hshallow] at hdecode
      exact ⟨_, (hafter k hk hnk).trans hdecode⟩
  · intro r hr k hk hnk
    obtain ⟨rows, hrows, hdecode⟩ := decode_cut_after hvalues hcode hlength hk
    rw [hafter k hk hnk, hdecode] at hr
    split at hr
    · cases hr
      exact ⟨hrows, rfl⟩
    · cases hr
  · intro hfail
    by_cases hcut : ∃ k ≤ ms.length, n = (stream (ms.take k)).length
    · obtain ⟨k, hk, hnk⟩ := hcut
      obtain ⟨rows, -, hdecode⟩ := decode_cut_after hvalues hcode hlength hk
      rw [← hafter k hk hnk] at hdecode
      split at hdecode
      · exact (hfail ⟨_, hdecode⟩).elim
      · exact ⟨malformed "query frame", hdecode, rfl⟩
    · exact hinside hcut

/-- A response of a header and one frame, cut inside the header. -/
theorem decode_take_encodeResponse_header : ∃ f,
    decode ((encodeResponse [[[.unset]]] none ["n"] none).take 3) = .error (.failure f) ∧ f.kind = .decode := by
  have hvalues : ∀ rows ∈ [[[Any.unset]]], ∀ row ∈ rows, ∀ v ∈ row, v.WellFormed Storable := by
    simp [Any.WellFormed.unset]
  have hlength : ∀ m ∈ messages [[[.unset]]] none ["n"] none, Framable m := by decide +kernel
  have hn : 3 ≤ (encodeResponse [[[.unset]]] none ["n"] none).length := by decide +kernel
  have hcut : ∀ k ≤ (messages [[[.unset]]] none ["n"] none).length,
      3 ≠ (stream ((messages [[[.unset]]] none ["n"] none).take k)).length := by decide +kernel
  obtain ⟨hiff, -, hfail⟩ := decode_take_encodeResponse hvalues (by simp) hlength hn
  refine hfail fun hok => ?_
  obtain ⟨k, hk, hnk, -⟩ := hiff.1 hok
  exact hcut k hk hnk

def nested : Nat → Any
  | 0 => .unset
  | n + 1 => .array [nested n]

theorem wellFormed_nested (n : Nat) : (nested n).WellFormed Storable := by
  induction n with
  | zero => exact .unset
  | succ n ih => exact .array (by simpa using ih)

/-- The end of a message is not enough: a response that holds a value of too many levels is refused whole. -/
theorem not_decode_take_of_message : ¬∀ (frames : List (List (List Any))) (transform : Option (Quantization Float))
    (keys : List String) (error : Option ErrorMessage),
    (∀ rows ∈ frames, ∀ row ∈ rows, ∀ v ∈ row, v.WellFormed Storable) → (∀ e ∈ error, IsInt32 e.code) →
    (∀ m ∈ messages frames transform keys error, Framable m) →
    ∀ n ≤ (encodeResponse frames transform keys error).length,
      (∃ r, decode ((encodeResponse frames transform keys error).take n) = .ok r) ↔
        ∃ k ≤ (messages frames transform keys error).length,
          n = (stream ((messages frames transform keys error).take k)).length := by
  intro h
  have hvalues : ∀ rows ∈ [[[nested 50]]], ∀ row ∈ rows, ∀ v ∈ row, v.WellFormed Storable := by
    simp [wellFormed_nested]
  have hframable : ∀ m ∈ messages [[[nested 50]]] none [] none, Framable m := by decide +kernel
  have hlength : (encodeResponse [[[nested 50]]] none [] none).length =
      (stream ((messages [[[nested 50]]] none [] none).take 2)).length := by
    rw [encodeResponse_eq_stream, List.take_of_length_le (by decide)]
  have hdeep : ¬∀ rows ∈ wholeFrames [[[nested 50]]] 2, RowFrame.Shallow { rows } := by decide +kernel
  obtain ⟨r, hr⟩ := (h [[[nested 50]]] none [] none hvalues (by simp) hframable _ (Nat.le_refl _)).2
    ⟨2, by decide, hlength⟩
  obtain ⟨_, -, hrefused⟩ := decode_cut_after (k := 2) hvalues (by simp) hframable (by decide)
  rw [if_neg hdeep] at hrefused
  rw [hlength, encodeResponse_eq_stream, take_length_stream, hrefused] at hr
  cases hr

end FeatureGraph.QueryResponse
