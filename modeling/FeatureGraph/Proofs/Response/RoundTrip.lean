import FeatureGraph.Proofs.Response.Frames
import FeatureGraph.Proofs.Wire.Response

/-! # Written responses decode to what was written

A response is written as a stream of messages: a header, a frame for each list of rows, and a frame for the
error. -/
namespace FeatureGraph.QueryResponse

open Wire

def headerOf (transform : Option (Quantization Float)) (keys : List String) : Header :=
  { transform := transform.map Transform.ofQuantization, keys }

def frameMessages (frames : List (List (List Any))) (error : Option ErrorMessage) : List (List UInt8) :=
  frames.map (fun rows => RowFrame.encode { rows }) ++ error.toList.map fun e => RowFrame.encode { error := some e }

def messages (frames : List (List (List Any))) (transform : Option (Quantization Float)) (keys : List String)
    (error : Option ErrorMessage) : List (List UInt8) :=
  (headerOf transform keys).encode :: frameMessages frames error

/-- Primitives that a message can hold and that stand for something. -/
def Storable (p : Primitive) : Prop := p.InRange ∧ p.HasValue

variable {frames : List (List (List Any))} {transform : Option (Quantization Float)} {keys : List String}
  {error : Option ErrorMessage}

theorem encodeResponse_eq_stream : encodeResponse frames transform keys error =
    stream (messages frames transform keys error) := by
  rw [messages, frameMessages, stream_cons, stream_append, stream, stream, List.flatMap_map, ← List.append_assoc]
  cases error <;> simp [encodeResponse, headerOf]

theorem ofHeader_headerOf (transform : Option (Quantization Float)) (keys : List String) :
    ResponseHeader.ofHeader (headerOf transform keys) = { transform, keys } := by
  cases transform with
  | none => rfl
  | some q => simp only [ResponseHeader.ofHeader, headerOf, Option.map_some, Option.bind_some,
      Transform.quantization?_ofQuantization]

theorem read?_headerOf (hm : Framable (headerOf transform keys).encode) :
    Header.read? (headerOf transform keys).encode = some (headerOf transform keys) := by
  refine Header.read?_encode (fun e he => by cases he) (fun t ht => ?_) (Nat.lt_trans hm (by decide))
  obtain ⟨q, -, rfl⟩ := Option.map_eq_some_iff.1 ht
  rfl

/-! ## Frames of rows -/

section
variable {xs : List (List Any)}

theorem exists_mapM_valueAll_eq_ok (hxs : ∀ row ∈ xs, ∀ v ∈ row, v.WellFormed Storable) :
    ∃ more, xs.mapM Any.valueAll = .ok more := by
  refine exists_mapM_eq_ok fun row hrow => Any.exists_valueAll_eq_ok fun v hv => ?_
  exact ((hxs row hrow v hv).mono fun p hp => hp.2).exists_value_eq_ok

theorem read?_rows (hxs : ∀ row ∈ xs, ∀ v ∈ row, v.WellFormed Storable)
    (hm : Framable (RowFrame.encode { rows := xs })) :
    RowFrame.read? (RowFrame.encode { rows := xs }) =
      if RowFrame.Shallow { rows := xs } then some { rows := xs } else none := by
  refine RowFrame.read?_encode ⟨fun row hrow v hv => ?_, fun e he => by cases he⟩ (Nat.lt_trans hm (by decide))
  exact (hxs row hrow v hv).mono fun p hp => hp.1

theorem absorb_rows (hxs : ∀ row ∈ xs, ∀ v ∈ row, v.WellFormed Storable)
    (hm : Framable (RowFrame.encode { rows := xs })) (rows : List (List Value)) :
    absorb rows (RowFrame.encode { rows := xs }) =
      if RowFrame.Shallow { rows := xs } then appended rows xs
      else .error (.failure (malformed "query frame")) := by
  have hread := read?_rows hxs hm
  split
  · next hshallow =>
    rw [if_pos hshallow] at hread
    exact absorb_of_rows hread rfl rows
  · next hdeep =>
    rw [if_neg hdeep] at hread
    exact absorb_of_none hread rows

end

/-- Frames of rows are taken whole, unless one of them holds a value that is nested too deep. -/
theorem absorbAll_rows (hframes : ∀ xs ∈ frames, ∀ row ∈ xs, ∀ v ∈ row, v.WellFormed Storable)
    (hm : ∀ xs ∈ frames, Framable (RowFrame.encode { rows := xs })) (rows : List (List Value)) :
    absorbAll rows (frames.map fun rows => RowFrame.encode { rows }) =
      if ∀ xs ∈ frames, RowFrame.Shallow { rows := xs } then appended rows frames.flatten
      else .error (.failure (malformed "query frame")) := by
  induction frames generalizing rows with
  | nil => simp [absorbAll]
  | cons xs frames ih =>
    rw [List.map_cons, absorbAll, absorb_rows (hframes xs (by simp)) (hm xs (by simp))]
    by_cases hxs : RowFrame.Shallow { rows := xs }
    · obtain ⟨more, hmore⟩ := exists_mapM_valueAll_eq_ok (hframes xs (by simp))
      rw [if_pos hxs, List.flatten_cons, appended_append, appended_of_mapM hmore, Progress.andThen_ok_none,
        Progress.andThen_ok_none, ih (fun ys h => hframes ys (by simp [h])) fun ys h => hm ys (by simp [h])]
      simp only [List.forall_mem_cons, hxs, true_and]
    · rw [if_neg hxs, if_neg (fun h => hxs (h xs (by simp)))]
      rfl

theorem absorb_error {e : ErrorMessage} (he : IsInt32 e.code) (hm : Framable (RowFrame.encode { error := some e }))
    (rows : List (List Value)) :
    absorb rows (RowFrame.encode { error := some e }) = .ok (rows, some (graphFailure e rows.length)) := by
  have hin : RowFrame.InRange { error := some e } := ⟨by simp, fun e' he' => by cases he'; exact he⟩
  have hread := RowFrame.read?_encode hin (Nat.lt_trans hm (by decide))
  rw [if_pos (by simp [RowFrame.Shallow])] at hread
  exact absorb_of_error hread rfl rows

/-! ## The round trip -/

theorem absorbAll_frameMessages (hvalues : ∀ xs ∈ frames, ∀ row ∈ xs, ∀ v ∈ row, v.WellFormed Storable)
    (hcode : ∀ e ∈ error, IsInt32 e.code) (hm : ∀ m ∈ frameMessages frames error, Framable m)
    {rows : List (List Value)} (hrows : frames.flatten.mapM Any.valueAll = .ok rows) :
    absorbAll [] (frameMessages frames error) =
      if ∀ xs ∈ frames, RowFrame.Shallow { rows := xs } then .ok (rows, error.map fun e => graphFailure e rows.length)
      else .error (.failure (malformed "query frame")) := by
  have hframes : ∀ xs ∈ frames, Framable (RowFrame.encode { rows := xs }) := fun xs hxs =>
    hm _ (List.mem_append_left _ (List.mem_map_of_mem hxs))
  rw [frameMessages, absorbAll_append, absorbAll_rows hvalues hframes]
  split
  · rw [appended_of_mapM hrows, List.nil_append, Progress.andThen_ok_none]
    cases error with
    | none => rfl
    | some e =>
      have he : Framable (RowFrame.encode { error := some e }) := hm _ (by simp [frameMessages])
      simp only [Option.toList_some, List.map_cons, absorbAll, absorb_error (hcode e rfl) he, Option.map_some]
      rfl
  · rfl

theorem exists_mapM_flatten_eq_ok (hvalues : ∀ xs ∈ frames, ∀ row ∈ xs, ∀ v ∈ row, v.WellFormed Storable) :
    ∃ rows, frames.flatten.mapM Any.valueAll = .ok rows := by
  refine exists_mapM_valueAll_eq_ok fun row hrow => ?_
  obtain ⟨xs, hxs, hrow⟩ := List.mem_flatten.1 hrow
  exact hvalues xs hxs row hrow

/-- What a written response decodes to, also where a value is nested too deep. -/
theorem decode_messages (hvalues : ∀ xs ∈ frames, ∀ row ∈ xs, ∀ v ∈ row, v.WellFormed Storable)
    (hcode : ∀ e ∈ error, IsInt32 e.code) (hm : ∀ m ∈ messages frames transform keys error, Framable m)
    {rows : List (List Value)} (hrows : frames.flatten.mapM Any.valueAll = .ok rows) :
    decode (stream (messages frames transform keys error)) =
      if ∀ xs ∈ frames, RowFrame.Shallow { rows := xs } then
        .ok { header := some { transform, keys }, rows, error := error.map fun e => graphFailure e rows.length }
      else .error (.failure (malformed "query frame")) := by
  rw [messages, List.forall_mem_cons] at hm
  obtain ⟨hheader, hframes⟩ := hm
  rw [messages, decode_stream_of_header hheader (read?_headerOf hheader) rfl hframes,
    absorbAll_frameMessages hvalues hcode hframes hrows]
  split
  · rw [Except.map, withHeader, ofHeader_headerOf]
  · rfl

/-- A response decodes to what was written: the values of all rows in order, and the error that ends it. Each
frame of rows is read back as it was, bit for bit. -/
theorem decode_encodeResponse (hvalues : ∀ rows ∈ frames, ∀ row ∈ rows, ∀ v ∈ row, v.WellFormed Storable)
    (hshallow : ∀ rows ∈ frames, RowFrame.Shallow { rows }) (hcode : ∀ e ∈ error, IsInt32 e.code)
    (hlength : ∀ m ∈ messages frames transform keys error, Framable m) :
    ∃ rows, frames.flatten.mapM Any.valueAll = .ok rows ∧
      decode (encodeResponse frames transform keys error) = .ok
        { header := some { transform, keys, exceededLimit := false }
          rows
          error := error.map fun e =>
            .of .graphQuery (if e.message.isEmpty then "graph query failed" else e.message)
              [("error_code", .int e.code), ("rows_received", .int frames.flatten.length)] } ∧
      ∀ rows ∈ frames, RowFrame.read? (RowFrame.encode { rows }) = some { rows } := by
  obtain ⟨rows, hrows⟩ := exists_mapM_flatten_eq_ok hvalues
  refine ⟨rows, hrows, ?_, ?_⟩
  · rw [encodeResponse_eq_stream, decode_messages hvalues hcode hlength hrows, if_pos hshallow,
      ← length_of_mapM_eq_ok hrows]
    rfl
  · intro xs hxs
    have hxm : Framable (RowFrame.encode { rows := xs }) :=
      hlength _ (List.mem_cons_of_mem _ (List.mem_append_left _ (List.mem_map_of_mem hxs)))
    rw [read?_rows (hvalues xs hxs) hxm, if_pos (hshallow xs hxs)]

/-- A number and an object with an identifier, beside an empty row and an empty frame. -/
theorem decode_encodeResponse_object : ∃ rows,
    decode (encodeResponse
      [[[.primitive (.sint64 (-5)), .object [("id", .primitive (.uuid (List.replicate 16 7)))]], []], []]
      (some ⟨0.5, 0.5, 10, -10⟩) ["n", "o"] (some ⟨-1, ""⟩)) = .ok
        { header := some { transform := some ⟨0.5, 0.5, 10, -10⟩, keys := ["n", "o"], exceededLimit := false }
          rows
          error := some
            (.of .graphQuery "graph query failed" [("error_code", .int (-1)), ("rows_received", .int 2)]) } := by
  let frames : List (List (List Any)) :=
    [[[.primitive (.sint64 (-5)), .object [("id", .primitive (.uuid (List.replicate 16 7)))]], []], []]
  have hnumber : (Any.primitive (.sint64 (-5))).WellFormed Storable :=
    .primitive ⟨show IsInt64 (-5) by decide, trivial⟩
  have hobject : (Any.object [("id", .primitive (.uuid (List.replicate 16 7)))]).WellFormed Storable :=
    .object (by decide) (by simpa using .primitive ⟨trivial, rfl⟩)
  have hvalues : ∀ rows ∈ frames, ∀ row ∈ rows, ∀ v ∈ row, v.WellFormed Storable := by
    simp [-List.reduceReplicate, frames, hnumber, hobject]
  have hlength : ∀ m ∈ messages frames (some ⟨0.5, 0.5, 10, -10⟩) ["n", "o"] (some ⟨-1, ""⟩), Framable m := by
    decide +kernel
  obtain ⟨rows, -, h, -⟩ := decode_encodeResponse hvalues (by decide +kernel) (by decide) hlength
  exact ⟨rows, h⟩

end FeatureGraph.QueryResponse
