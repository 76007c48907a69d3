import FeatureGraph.Proofs.Response.Frames
import FeatureGraph.Proofs.Wire.Response

/-! # Responses without a header

A frame of a response reads as a header too: the error is the same field in both, and the rows of a frame
are a field that a header has with another form. The first frame of a response without a header is
therefore taken for its header. -/
namespace FeatureGraph.Wire

/-- What a step does to a part of the state, a run of it does too. -/
theorem foldlM_project {α β γ : Type} {step : α → γ → Option α} {step' : β → γ → Option β} (part : α → β)
    (h : ∀ a f a', step a f = some a' → step' (part a) f = some (part a')) {fs : List γ} {a b : α}
    (hrun : fs.foldlM step a = some b) : fs.foldlM step' (part a) = some (part b) := by
  induction fs generalizing a with
  | nil =>
    cases hrun
    rfl
  | cons f fs ih =>
    rw [List.foldlM_cons] at hrun ⊢
    obtain ⟨a', ha, hrun⟩ := Option.bind_eq_some_iff.1 hrun
    rw [h a f a' ha]
    exact ih hrun

def errorStep (e : Option ErrorMessage) (f : Field) : Option (Option ErrorMessage) :=
  match f with
  | ⟨2, .bytes b⟩ => (ErrorMessage.merge rootLevels (e.getD {}) b).map some
  | _ => some e

theorem errorStep_of_frameStep {r r' : RowFrame} {f : Field} (h : RowFrame.step r f = some r') :
    errorStep r.error f = some r'.error := by
  unfold RowFrame.step at h
  split at h
  · obtain ⟨row, -, rfl⟩ := Option.map_eq_some_iff.1 h
    rfl
  · obtain ⟨e, he, rfl⟩ := Option.map_eq_some_iff.1 h
    simp only [errorStep, he, Option.map_some]
  · next hother =>
    cases h
    unfold errorStep
    split
    · exact (hother _ rfl).elim
    · rfl

theorem errorStep_of_headerStep {h h' : Header} {f : Field} (hs : Header.step h f = some h') :
    errorStep h.error f = some h'.error := by
  unfold Header.step at hs
  split at hs
  · obtain ⟨e, he, rfl⟩ := Option.map_eq_some_iff.1 hs
    simp only [errorStep, he, Option.map_some]
  · obtain ⟨t, -, rfl⟩ := Option.map_eq_some_iff.1 hs
    rfl
  · obtain ⟨k, -, rfl⟩ := Option.map_eq_some_iff.1 hs
    rfl
  · cases hs
    rfl
  · next hother _ _ _ =>
    cases hs
    unfold errorStep
    split
    · exact (hother _ rfl).elim
    · rfl

/-- A message holds no other fields than a frame of rows has. -/
def HasFrameFields (m : List UInt8) : Prop := ∀ fs ∈ fields? rootLevels m, ∀ f ∈ fs, f.number ≤ 2

instance (m : List UInt8) : Decidable (HasFrameFields m) :=
  inferInstanceAs (Decidable (∀ fs ∈ fields? rootLevels m, ∀ f ∈ fs, f.number ≤ 2))

theorem headerStep_of_errorStep {h : Header} {f : Field} {e : Option ErrorMessage} (hf : f.number ≤ 2)
    (hs : errorStep h.error f = some e) : Header.step h f = some { h with error := e } := by
  unfold errorStep at hs
  split at hs
  · obtain ⟨m, hm, rfl⟩ := Option.map_eq_some_iff.1 hs
    simp only [Header.step, hm, Option.map_some]
  · next hother =>
    cases hs
    unfold Header.step
    split
    · exact (hother _ rfl).elim
    · exact absurd hf (by simp)
    · exact absurd hf (by simp)
    · exact absurd hf (by simp)
    · rfl

theorem foldlM_headerStep {fs : List Field} {h : Header} {e : Option ErrorMessage} (hfs : ∀ f ∈ fs, f.number ≤ 2)
    (hrun : fs.foldlM errorStep h.error = some e) : fs.foldlM Header.step h = some { h with error := e } := by
  induction fs generalizing h with
  | nil =>
    cases hrun
    rfl
  | cons f fs ih =>
    rw [List.foldlM_cons] at hrun ⊢
    obtain ⟨e', he, hrun⟩ := Option.bind_eq_some_iff.1 hrun
    rw [headerStep_of_errorStep (hfs f (by simp)) he]
    exact ih (fun f' hf => hfs f' (by simp [hf])) hrun

variable {m : List UInt8} {r : RowFrame} {h : Header}

theorem exists_fields_of_read? (hr : RowFrame.read? m = some r) :
    ∃ fs, fields? rootLevels m = some fs ∧ fs.foldlM RowFrame.step {} = some r :=
  Option.bind_eq_some_iff.1 hr

/-- A message that reads as both has the same error in both. -/
theorem error_eq_of_read? (hr : RowFrame.read? m = some r) (hh : Header.read? m = some h) : h.error = r.error := by
  obtain ⟨fs, hfs, hr⟩ := exists_fields_of_read? hr
  obtain ⟨fs', hfs', hh⟩ := Option.bind_eq_some_iff.1 hh
  rw [hfs] at hfs'
  cases hfs'
  have hframe := foldlM_project (·.error) (fun _ _ _ => errorStep_of_frameStep) hr
  have hheader := foldlM_project (·.error) (fun _ _ _ => errorStep_of_headerStep) hh
  exact Option.some.inj (hheader.symm.trans hframe)

/-- Every frame of rows reads as a header. -/
theorem header_read?_of_read? (hm : HasFrameFields m) (hr : RowFrame.read? m = some r) :
    Header.read? m = some { error := r.error } := by
  obtain ⟨fs, hfs, hr⟩ := exists_fields_of_read? hr
  have hframe := foldlM_project (·.error) (fun _ _ _ => errorStep_of_frameStep) hr
  exact Option.bind_eq_some_iff.2 ⟨fs, hfs, foldlM_headerStep (hm fs hfs) hframe⟩

end FeatureGraph.Wire

namespace FeatureGraph.QueryResponse

open Wire

variable {header m : List UInt8} {ms : List (List UInt8)} {h : Header} {r : RowFrame} {rs : List RowFrame}

/-- Rows before a run of frames stay in front of what the run adds. -/
theorem absorbAll_of_append {front acc all : List (List Value)} {f : Option Failure}
    (hrun : absorbAll (front ++ acc) ms = .ok (all, f)) :
    ∃ rows f', absorbAll acc ms = .ok (rows, f') ∧ all = front ++ rows := by
  induction ms generalizing acc with
  | nil =>
    cases hrun
    exact ⟨acc, none, rfl, rfl⟩
  | cons m ms ih =>
    rw [absorbAll] at hrun ⊢
    cases hr : RowFrame.read? m with
    | none =>
      rw [absorb_of_none hr] at hrun
      cases hrun
    | some r =>
      cases he : r.error with
      | some e =>
        rw [absorb_of_error hr he] at hrun ⊢
        cases hrun
        exact ⟨acc, _, rfl, rfl⟩
      | none =>
        rw [absorb_of_rows hr he] at hrun ⊢
        cases hmore : r.rows.mapM Any.valueAll with
        | error d =>
          rw [appended, hmore] at hrun
          cases hrun
        | ok more =>
          rw [appended_of_mapM hmore, Progress.andThen_ok_none] at hrun ⊢
          rw [List.append_assoc] at hrun
          exact ih hrun

theorem exists_absorbAll_eq_ok (hrs : ms.map RowFrame.read? = rs.map some)
    (hvalues : ∀ r ∈ rs, ∃ more, r.rows.mapM Any.valueAll = .ok more) (rows : List (List Value)) :
    ∃ p, absorbAll rows ms = .ok p := by
  induction ms generalizing rs rows with
  | nil => exact ⟨_, rfl⟩
  | cons m ms ih =>
    cases rs with
    | nil => cases hrs
    | cons r rs =>
      obtain ⟨hr, hrs⟩ := List.cons.inj hrs
      rw [absorbAll]
      cases he : r.error with
      | some e =>
        rw [absorb_of_error hr he]
        exact ⟨_, rfl⟩
      | none =>
        obtain ⟨more, hmore⟩ := hvalues r (by simp)
        rw [absorb_of_rows hr he, appended_of_mapM hmore, Progress.andThen_ok_none]
        exact ih hrs (fun r' h => hvalues r' (by simp [h])) _

/-- A first message that is no header leaves every frame to the rows. -/
theorem decode_of_not_header (hh : Header.read? m = none) (hms : ∀ m' ∈ m :: ms, Framable m') :
    decode (stream (m :: ms)) = (absorbAll [] (m :: ms)).map withoutHeader := by
  have hheader : readHeader (stream (m :: ms)) = .error (malformed "query header") := by
    rw [stream_cons, readHeader_frame (hms m (by simp)), hh]
    rfl
  have hrows := readRows_stream hms [] [] []
  simp only [List.nil_append, List.append_nil, List.length_nil, readRows_nil, Progress.andThen_ok] at hrows
  rw [decode_of_noHeader hheader, hrows]

/-- The rows of a frame that is taken for a header are missing in front of the others. -/
theorem decode_drops_rows {h' : Header} {all : List (List Value)} {f : Option Failure}
    (hm : ∀ m' ∈ m :: ms, Framable m') (hr : RowFrame.read? m = some r) (hread : Header.read? m = some h')
    (he : r.error = none) (hrun : absorbAll [] (m :: ms) = .ok (all, f)) :
    ∃ first rows f', r.rows.mapM Any.valueAll = .ok first ∧
      decode (stream (m :: ms)) = .ok (withHeader h' (rows, f')) ∧ all = first ++ rows ∧ (first = [] → f' = f) := by
  obtain ⟨hmm, hmt⟩ := List.forall_mem_cons.1 hm
  have he' := (error_eq_of_read? hr hread).trans he
  have hbare := decode_stream_of_header hmm hread he' hmt
  rw [absorbAll, absorb_of_rows hr he] at hrun
  cases hfirst : r.rows.mapM Any.valueAll with
  | error d =>
    rw [appended, hfirst] at hrun
    cases hrun
  | ok first =>
    rw [appended_of_mapM hfirst, Progress.andThen_ok_none, List.nil_append, ← List.append_nil first] at hrun
    obtain ⟨rows, f', hrest, rfl⟩ := absorbAll_of_append hrun
    rw [hrest] at hbare
    refine ⟨first, rows, f', rfl, hbare, rfl, ?_⟩
    rintro rfl
    rw [List.append_nil, hrest] at hrun
    cases hrun
    rfl

/-- A response without a header decodes like the same frames after a header if its first frame holds an error or
no rows, and otherwise the rows of that frame are lost: it is taken for a header, as every frame is that has no
other fields than a frame should have. -/
theorem decode_without_header (hh : Header.read? header = some h) (hhe : h.error = none)
    (hrs : (m :: ms).map RowFrame.read? = (r :: rs).map some) (hm : ∀ m' ∈ header :: m :: ms, Framable m') :
    ((∀ r' ∈ r :: rs, ∃ more, r'.rows.mapM Any.valueAll = .ok more) →
      ∃ full, decode (stream (header :: m :: ms)) = .ok full) ∧
    (∀ full, decode (stream (header :: m :: ms)) = .ok full →
      ∃ bare, decode (stream (m :: ms)) = .ok bare ∧
        ((bare.rows = full.rows ∧ bare.error = full.error) ↔
          Header.read? m = none ∨ r.error.isSome ∨ r.rows = [])) ∧
    (HasFrameFields m → Header.read? m ≠ none) := by
  rw [List.forall_mem_cons] at hm
  obtain ⟨hheader, hm⟩ := hm
  obtain ⟨hr, -⟩ := List.cons.inj hrs
  rw [decode_stream_of_header hheader hh hhe hm]
  refine ⟨?_, ?_, ?_⟩
  · intro hvalues
    obtain ⟨p, hp⟩ := exists_absorbAll_eq_ok hrs hvalues []
    exact ⟨_, by rw [hp]; rfl⟩
  · intro full hfull
    obtain ⟨⟨all, f⟩, hrun, rfl⟩ := exists_of_map_eq_ok hfull
    cases hread : Header.read? m with
    -- frames are read from the start, as after a header
    | none =>
      have hbare := decode_of_not_header hread hm
      rw [hrun] at hbare
      exact ⟨_, hbare, by simp [withHeader, withoutHeader]⟩
    | some h' =>
      cases he : r.error with
      -- the error is taken for one of a header, with no rows before it either
      | some e =>
        have hbare := decode_of_header_error (hm m (by simp)) hread ((error_eq_of_read? hr hread).trans he) (stream ms)
        rw [← stream_cons] at hbare
        rw [absorbAll, absorb_of_error hr he] at hrun
        cases hrun
        exact ⟨_, hbare, by simp [withHeader]⟩
      | none =>
        obtain ⟨first, rows, f', hfirst, hbare, rfl, hsame⟩ := decode_drops_rows hm hr hread he hrun
        have hlength := length_of_mapM_eq_ok hfirst
        refine ⟨_, hbare, ?_⟩
        constructor
        · rintro ⟨hrows, -⟩
          have hnil : first = [] := List.self_eq_append_left.1 hrows
          rw [hnil] at hlength
          exact .inr (.inr (List.length_eq_zero_iff.1 hlength.symm))
        · intro hnone
          have hempty : r.rows = [] := by simpa using hnone
          rw [hempty] at hlength
          obtain rfl := List.length_eq_zero_iff.1 hlength
          exact ⟨rfl, hsame rfl⟩
  · intro hfields
    rw [header_read?_of_read? hfields hr]
    exact Option.some_ne_none _

/-- A frame with one row and no header before it. -/
theorem decode_without_header_row : ∃ full bare,
    decode (stream [Header.encode {}, RowFrame.encode { rows := [[.unset]] }]) = .ok full ∧
      decode (stream [RowFrame.encode { rows := [[.unset]] }]) = .ok bare ∧
      ¬(bare.rows = full.rows ∧ bare.error = full.error) := by
  have hheader : Header.read? (Header.encode {}) = some {} := Header.read?_encode nofun nofun (by decide +kernel)
  have hrow : RowFrame.read? (RowFrame.encode { rows := [[.unset]] }) = some { rows := [[.unset]] } :=
    RowFrame.read?_encode_of_shallow ⟨by simp [Any.WellFormed.unset], by simp⟩ (by decide +kernel) (by decide +kernel)
  have hrows : [RowFrame.encode { rows := [[.unset]] }].map RowFrame.read? =
      [({ rows := [[.unset]] } : RowFrame)].map some := congrArg (List.cons · []) hrow
  obtain ⟨hok, hsame, hread⟩ := decode_without_header hheader rfl hrows (by decide +kernel)
  obtain ⟨full, hfull⟩ := hok (by simpa using ⟨[[.null]], rfl⟩)
  obtain ⟨bare, hbare, hiff⟩ := hsame full hfull
  refine ⟨full, bare, hfull, hbare, fun h => ?_⟩
  rcases hiff.1 h with hnone | hsome | hempty
  · exact hread (by decide +kernel) hnone
  · cases hsome
  · cases hempty

end FeatureGraph.QueryResponse
