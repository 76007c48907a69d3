import FeatureGraph.Proofs.Response.Frames
import FeatureGraph.Proofs.Result
import FeatureGraph.Proofs.Service.Session
import FeatureGraph.Proofs.Wire.Response
import FeatureGraph.Service.Server

/-! # Errors in the midst of a response

A frame with an error ends a response, whatever follows it. The rows before it are kept and counted, and a
server that raises the error tells their number. -/
namespace FeatureGraph

namespace Server

/-- An error in the response to a query is raised with the number of rows before it. -/
theorem run_query_of_error {s : Server} {remote : Remote} {cypher caller : String} {w w' : World} {a : Answer}
    {r : QueryResponse} {f : Failure} (hfetch : (s.fetch remote (s.queryUrl cypher caller)).run.run w = (.ok a, w'))
    (hrows : a.rows s.platform = .ok r) (herror : r.error = some f) :
    (s.query remote cypher caller).run.run w = (.error (.failure (withPartialRows f r.rows.length)), w') := by
  obtain ⟨header, rows, error⟩ := r
  cases herror
  rw [query, Session.run_bind_of_ok hfetch, hrows]
  rfl

end Server

namespace QueryResponse

open Wire

variable {header last : List UInt8} {ms : List (List UInt8)} {h : Header} {rs : List RowFrame} {r : RowFrame}
  {e : ErrorMessage}

/-- The error of a response is one that the graph tells. -/
theorem delivers_readRows_kind (buffer : List UInt8) (pos : Nat) (rows : List (List Value)) :
    Delivers (fun p => ∀ f ∈ p.2, f.kind = .graphQuery) (readRows buffer pos rows) := by
  have habsorb (rows : List (List Value)) (m : List UInt8) :
      Delivers (fun p => ∀ f ∈ p.2, f.kind = .graphQuery) (absorb rows m) := by
    unfold absorb
    refine .bind_true fun r => ?_
    split
    · exact .ok (by simp [graphFailure, Failure.of])
    · exact .bind_true fun more => .ok nofun
  -- each frame leaves fewer bytes to read
  induction hn : buffer.length - pos using Nat.strongRecOn generalizing pos rows with
  | ind n ih =>
    rw [readRows]
    split
    · split
      · exact .error _
      · next message next hread =>
        have hnext := readFrame_next hread
        refine (habsorb rows message).bind fun p hp => ?_
        obtain ⟨rows', _ | f⟩ := p
        · exact ih (buffer.length - next) (by omega) next rows' rfl
        · exact .ok hp
    · exact .ok nofun

theorem kind_error_of_decode {buffer : List UInt8} {r : QueryResponse} (h : decode buffer = .ok r) :
    ∀ f ∈ r.error, f.kind = .graphQuery := by
  suffices Delivers (fun r => ∀ f ∈ r.error, f.kind = .graphQuery) (decode buffer) from this r h
  unfold decode
  split
  · exact (delivers_readRows_kind buffer 0 []).bind fun p hp => .ok hp
  · split
    · exact .ok (by simp [graphFailure, Failure.of])
    · exact (delivers_readRows_kind buffer _ []).bind fun p hp => .ok hp

theorem absorbAll_of_error (hrs : ms.map RowFrame.read? = rs.map some) (hfree : ∀ r ∈ rs, r.error = none)
    (hlast : RowFrame.read? last = some r) (he : r.error = some e) :
    absorbAll [] (ms ++ [last]) =
      (appended [] (rs.flatMap (·.rows))).map fun p => (p.1, some (graphFailure e p.1.length)) := by
  rw [absorbAll_append, absorbAll_of_rows hrs hfree]
  simp only [absorbAll, absorb_of_error hlast he]
  rw [appended]
  cases (rs.flatMap (·.rows)).mapM Any.valueAll <;> rfl

theorem decode_of_error_frame (hh : Header.read? header = some h) (hhe : h.error = none)
    (hrs : ms.map RowFrame.read? = rs.map some) (hfree : ∀ r ∈ rs, r.error = none)
    (hlast : RowFrame.read? last = some r) (he : r.error = some e)
    (hm : ∀ m ∈ header :: ms ++ [last], Framable m) (tail : List UInt8) :
    decode (stream (header :: ms ++ [last]) ++ tail) =
      (((rs.flatMap (·.rows)).mapM Any.valueAll).mapError .defect).map fun rows =>
        { header := some (.ofHeader h), rows, error := some (graphFailure e rows.length) } := by
  rw [List.cons_append, List.forall_mem_cons] at hm
  rw [List.cons_append, decode_of_header hm.1 hh hhe hm.2, absorbAll_of_error hrs hfree hlast he, appended]
  cases (rs.flatMap (·.rows)).mapM Any.valueAll <;> rfl

/-- Once a frame had an error the rest of the response does not count. The rows before that frame are kept, those
in it are not, and the failure tells how many they are; a server that raises it repeats the number. -/
theorem error_frame_ends_response (hh : Header.read? header = some h) (hhe : h.error = none)
    (hrs : ms.map RowFrame.read? = rs.map some) (hfree : ∀ r ∈ rs, r.error = none)
    (hlast : RowFrame.read? last = some r) (he : r.error = some e)
    (hm : ∀ m ∈ header :: ms ++ [last], Framable m) :
    let response := stream (header :: ms ++ [last])
    let message := if e.message.isEmpty then "graph query failed" else e.message
    (∀ tail, decode (response ++ tail) = decode response) ∧
    (∀ d, (rs.flatMap (·.rows)).mapM Any.valueAll = .error d → decode response = .error (.defect d)) ∧
    ∀ rows, (rs.flatMap (·.rows)).mapM Any.valueAll = .ok rows →
      decode response = .ok
        { header := some (.ofHeader h)
          rows
          error := some
            (.of .graphQuery message [("error_code", .int e.code), ("rows_received", .int rows.length)]) } ∧
      ∀ (s : Server) (remote : Remote) (cypher caller : String) (w w' : World) (a : Answer) (tail : List UInt8),
        (s.fetch remote (s.queryUrl cypher caller)).run.run w = (.ok a, w') → a.isJson = false →
        a.body = response ++ tail →
        (s.query remote cypher caller).run.run w =
          (.error (.failure (.of .graphQuery message
            [("error_code", .int e.code), ("rows_received", .int rows.length), ("partial_rows", .int rows.length)])),
            w') := by
  intro response message
  have hdecode (tail : List UInt8) := decode_of_error_frame hh hhe hrs hfree hlast he hm tail
  have hresponse := hdecode []
  rw [List.append_nil] at hresponse
  refine ⟨?_, ?_, ?_⟩
  · intro tail
    rw [hdecode, hresponse]
  · intro d hd
    rw [hresponse, hd]
    rfl
  · intro rows hrows
    constructor
    · rw [hresponse, hrows]
      rfl
    intro s remote cypher caller w w' a tail hfetch hjson hbody
    have ha : a.rows s.platform = .ok { header := some (.ofHeader h), rows, error := some (graphFailure e rows.length) } := by
      rw [Answer.rows, hjson, hbody, hdecode, hrows]
      rfl
    exact Server.run_query_of_error hfetch ha rfl

/-- One row and then an error, in a frame with a row of its own and before bytes that are no frame. -/
theorem error_frame_ends_response_garbage : ∃ w,
    (Server.query (fun _ _ => .answered
        { status := 200
          body := stream
            [Header.encode { keys := ["n"] }, RowFrame.encode { rows := [[.unset]] },
              RowFrame.encode { rows := [[]], error := some ⟨7, "late"⟩ }] ++ [255, 255] })
      { name := "g", url := "http://h" } "MATCH" "").run.run {} =
      (.error (.failure (.of .graphQuery "late"
        [("error_code", .int 7), ("rows_received", .int 1), ("partial_rows", .int 1)])), w) := by
  have hheader : Header.read? (Header.encode { keys := ["n"] }) = some { keys := ["n"] } :=
    Header.read?_encode nofun nofun (by decide +kernel)
  have hrow : RowFrame.read? (RowFrame.encode { rows := [[.unset]] }) = some { rows := [[.unset]] } :=
    RowFrame.read?_encode_of_shallow ⟨by simp [Any.WellFormed.unset], by simp⟩ (by decide +kernel) (by decide +kernel)
  have hrows : [RowFrame.encode { rows := [[.unset]] }].map RowFrame.read? =
      [({ rows := [[.unset]] } : RowFrame)].map some := congrArg (List.cons · []) hrow
  have hlast : RowFrame.read? (RowFrame.encode { rows := [[]], error := some ⟨7, "late"⟩ }) =
      some { rows := [[]], error := some ⟨7, "late"⟩ } :=
    RowFrame.read?_encode_of_shallow ⟨by simp, by simp; decide⟩ (by decide +kernel) (by decide +kernel)
  obtain ⟨-, -, hresponse⟩ :=
    error_frame_ends_response hheader rfl hrows (by simp) hlast rfl (by decide +kernel)
  exact ⟨_, (hresponse [[.null]] rfl).2 _ _ _ _ _ _ _ [255, 255] rfl rfl rfl⟩

end QueryResponse
end FeatureGraph
