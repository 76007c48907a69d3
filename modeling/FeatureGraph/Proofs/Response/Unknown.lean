import FeatureGraph.Proofs.Response.Headerless
import FeatureGraph.Proofs.Wire.Unknown

/-! # Responses with unknown fields

A field of an unknown number changes nothing in a response, with two exceptions: it spoils an entry of a map, and in
the first frame of a response without a header it may be known to a header. -/
namespace FeatureGraph.QueryResponse

open Wire

variable {m m₀ m' : List UInt8} {ms before after : List (List UInt8)}

/-- What a response decodes to is found from what its first message is read as. -/
theorem decode_stream (hm : ∀ m' ∈ m :: ms, Framable m') :
    decode (stream (m :: ms)) =
      match Header.read? m with
      | none => (absorbAll [] (m :: ms)).map withoutHeader
      | some h =>
        match h.error with
        | some e => .ok { header := some (.ofHeader h), error := some (graphFailure e 0) }
        | none => (absorbAll [] ms).map (withHeader h) := by
  obtain ⟨hfirst, hrest⟩ := List.forall_mem_cons.1 hm
  cases hread : Header.read? m with
  | none => exact decode_of_not_header hread hm
  | some h =>
    cases he : h.error with
    | none =>
      simp only [he]
      exact decode_stream_of_header hfirst hread he hrest
    | some e =>
      simp only [he]
      rw [stream_cons]
      exact decode_of_header_error hfirst hread he (stream ms)

/-! ## One message exchanged -/

theorem absorb_congr (h : RowFrame.read? m' = RowFrame.read? m) (rows : List (List Value)) :
    absorb rows m' = absorb rows m := by
  rw [absorb, absorb, h]

theorem absorbAll_congr (h : RowFrame.read? m' = RowFrame.read? m) (rows : List (List Value)) :
    absorbAll rows (before ++ m' :: after) = absorbAll rows (before ++ m :: after) := by
  simp only [absorbAll_append, absorbAll, absorb_congr h]

theorem exists_read?_of_absorbAll {rows : List (List Value)} {p : List (List Value) × Option Failure}
    (h : absorbAll rows (m :: ms) = .ok p) : ∃ r, RowFrame.read? m = some r := by
  cases hr : RowFrame.read? m with
  | none =>
    rw [absorbAll, absorb_of_none hr] at h
    cases h
  | some r => exact ⟨r, rfl⟩

/-- Where two messages are frames, a third is the same as the second. -/
def FrameFrom (m₀ m m' : List UInt8) : Prop :=
  ∀ r₀ r, RowFrame.read? m₀ = some r₀ → RowFrame.read? m = some r → RowFrame.read? m' = some r

theorem absorbAll_of_frameFrom (h : FrameFrom m₀ m m') (done : List (List UInt8)) {rows : List (List Value)}
    {p₀ p : List (List Value) × Option Failure} (h₀ : absorbAll rows (done ++ m₀ :: after) = .ok p₀)
    (hrun : absorbAll rows (done ++ m :: after) = .ok p) : absorbAll rows (done ++ m' :: after) = .ok p := by
  rw [absorbAll_append] at h₀ hrun ⊢
  -- the message counts only if no frame before it ends the response
  generalize absorbAll rows done = progress at h₀ hrun ⊢
  rcases progress with d | ⟨rows, _ | f⟩
  · cases hrun
  · rw [Progress.andThen_ok_none] at h₀ hrun ⊢
    obtain ⟨r₀, hr₀⟩ := exists_read?_of_absorbAll h₀
    obtain ⟨r, hr⟩ := exists_read?_of_absorbAll hrun
    have hsame : RowFrame.read? m' = RowFrame.read? m := (h r₀ r hr₀ hr).trans hr.symm
    rw [absorbAll, absorb_congr hsame]
    exact hrun
  · exact hrun

theorem map_absorbAll_of_frameFrom (h : FrameFrom m₀ m m') (done : List (List UInt8)) {rows : List (List Value)}
    {g : List (List Value) × Option Failure → QueryResponse} {r₀ r : QueryResponse}
    (h₀ : (absorbAll rows (done ++ m₀ :: after)).map g = .ok r₀)
    (hrun : (absorbAll rows (done ++ m :: after)).map g = .ok r) :
    (absorbAll rows (done ++ m' :: after)).map g = .ok r := by
  obtain ⟨p₀, hp₀, -⟩ := exists_of_map_eq_ok h₀
  obtain ⟨p, hp, rfl⟩ := exists_of_map_eq_ok hrun
  rw [absorbAll_of_frameFrom h done hp₀ hp]
  rfl

theorem decode_congr (hframe : RowFrame.read? m' = RowFrame.read? m)
    (hheader : before = [] → Header.read? m' = Header.read? m) (hm : ∀ n ∈ before ++ m :: after, Framable n)
    (hm' : ∀ n ∈ before ++ m' :: after, Framable n) :
    decode (stream (before ++ m' :: after)) = decode (stream (before ++ m :: after)) := by
  cases before with
  | nil =>
    rw [List.nil_append] at hm hm' ⊢
    rw [List.nil_append, decode_stream hm, decode_stream hm', hheader rfl, absorbAll, absorbAll, absorb_congr hframe]
  | cons first before =>
    rw [List.cons_append] at hm hm' ⊢
    rw [List.cons_append, decode_stream hm, decode_stream hm', absorbAll_congr hframe, absorbAll, absorbAll,
      funext fun rows => absorbAll_congr hframe rows]

theorem decode_of_frameFrom (hframe : FrameFrom m₀ m m')
    (hheader : before = [] → Header.read? m = Header.read? m₀ ∧ Header.read? m' = Header.read? m₀)
    (hm₀ : ∀ n ∈ before ++ m₀ :: after, Framable n) (hm : ∀ n ∈ before ++ m :: after, Framable n)
    (hm' : ∀ n ∈ before ++ m' :: after, Framable n) {r₀ r : QueryResponse}
    (h₀ : decode (stream (before ++ m₀ :: after)) = .ok r₀) (h : decode (stream (before ++ m :: after)) = .ok r) :
    decode (stream (before ++ m' :: after)) = .ok r := by
  cases before with
  | nil =>
    obtain ⟨hsame, hsame'⟩ := hheader rfl
    rw [List.nil_append] at hm₀ hm hm' h₀ h ⊢
    rw [decode_stream hm₀] at h₀
    rw [decode_stream hm, hsame] at h
    rw [decode_stream hm', hsame']
    cases hread : Header.read? m₀ with
    | none =>
      rw [hread] at h₀ h
      exact map_absorbAll_of_frameFrom hframe [] h₀ h
    | some _ =>
      rw [hread] at h
      exact h
  | cons first before =>
    rw [List.cons_append] at hm₀ hm hm' h₀ h ⊢
    rw [decode_stream hm₀] at h₀
    rw [decode_stream hm] at h
    rw [decode_stream hm']
    generalize Header.read? first = header at h₀ h ⊢
    rcases header with _ | ⟨transform, keys, exceededLimit, _ | e⟩
    · exact map_absorbAll_of_frameFrom hframe (first :: before) h₀ h
    · exact map_absorbAll_of_frameFrom hframe before h₀ h
    · exact h

/-! ## Unknown fields -/

variable {k place : Kind} {m'' : List UInt8} {f : Field}

theorem framable_insert (hm : ∀ n ∈ before ++ after, Framable n) (h : Framable m) :
    ∀ n ∈ before ++ m :: after, Framable n := by
  intro n hn
  rcases List.mem_append.1 hn with hbefore | hrest
  · exact hm n (List.mem_append_left _ hbefore)
  · rcases List.mem_cons.1 hrest with rfl | hafter
    · exact h
    · exact hm n (List.mem_append_right _ hafter)

/-- A field of an unknown number at any depth of a header or a frame leaves what a response decodes to as it was, if
it is not put into an entry of a map and, where a frame comes first, not into the frame itself for a header to take.
In an entry it takes the entry away: the response decodes like the one without the entry. -/
theorem decode_of_unknown_field (hm : ∀ n ∈ before ++ after, Framable n) (hmm : Framable m) (hmm' : Framable m') :
    (∀ k place, k = .frame ∨ k = .header ∧ before = [] → place ≠ .entry →
      (before = [] → k = .frame → place = .frame → ∀ h, Header.step h f = some h) →
      Within (Inserts f place) k m m' →
        decode (stream (before ++ m' :: after)) = decode (stream (before ++ m :: after))) ∧
    (∀ m'', Framable m'' → Spoils f .frame m m' m'' →
      (∃ r, decode (stream (before ++ m :: after)) = .ok r) → ∀ r,
        decode (stream (before ++ m' :: after)) = .ok r ↔ decode (stream (before ++ m'' :: after)) = .ok r) := by
  have hfull := framable_insert hm hmm
  have hfull' := framable_insert hm hmm'
  constructor
  · intro k place hk hplace hfirst hwithin
    have hkind : k = .frame ∨ k = .header := hk.imp_right And.left
    exact decode_congr (frame_read?_of_inserts hplace hkind hwithin)
      (fun hbefore => header_read?_of_inserts hplace hkind (hfirst hbefore) hwithin) hfull hfull'
  · rintro m'' hmm'' hspoils ⟨r₀, hr₀⟩ r
    have hfull'' := framable_insert hm hmm''
    obtain ⟨hheader', hheader''⟩ := hspoils.header_read?_eq
    have hdropped : FrameFrom m' m' m'' := fun _ _ => hspoils.readsAs.1.frame
    have hspoilt : FrameFrom m m'' m' := fun _ _ => hspoils.readsAs.2.frame
    constructor
    · intro h
      exact decode_of_frameFrom hdropped (fun _ => ⟨rfl, hheader''.trans hheader'.symm⟩) hfull' hfull' hfull'' h h
    · intro h
      exact decode_of_frameFrom hspoilt (fun _ => ⟨hheader'', hheader'⟩) hfull hfull'' hfull' hr₀ h

def entityFrame (properties : List UInt8) : List UInt8 := bytesField 1 (bytesField 1 (bytesField 2 properties))

/-- The property a is 1. -/
def entityEntry : List UInt8 := bytesField 1 [0x61] ++ bytesField 2 (Any.encode (.primitive (.sint64 1)))

theorem spoils_entityFrame : Spoils ⟨3, .varint 1⟩ .frame (entityFrame (bytesField 2 entityEntry))
    (entityFrame (bytesField 2 (entityEntry ++ varintField 3 1))) (entityFrame []) := by
  have hinserts : Inserts ⟨3, .varint 1⟩ .entry .entry (entityEntry ++ []) (entityEntry ++ varintField 3 1 ++ []) :=
    .intro (by decide) (by decide +kernel) (isField_varintField (by decide))
  have hentity := Spoils.here (b := []) .entityProperty isSome_tokens?_nil (isField_bytesField (by decide +kernel))
    (isField_bytesField (by decide +kernel)) hinserts
  simp only [List.nil_append, List.append_nil] at hentity
  have hvalue := hentity.alone .entity (by decide +kernel)
  have hrow := hvalue.alone .element (by decide +kernel)
  exact hrow.alone .row (by decide +kernel)

/-- A field in a row makes no difference, and in the entry of a property it takes the property away. -/
theorem decode_of_unknown_field_entity :
    decode (stream [Header.encode {}, bytesField 1 (varintField 2 0)]) =
        decode (stream [Header.encode {}, bytesField 1 []]) ∧
      (∃ r, decode (stream [Header.encode {}, entityFrame (bytesField 2 entityEntry)]) = .ok r ∧
        Value.sameAll r.rows.flatten [.entity "" [("a", .int 1)] .null]) ∧
      ∃ r, decode (stream [Header.encode {}, entityFrame (bytesField 2 (entityEntry ++ varintField 3 1))]) = .ok r ∧
        Value.sameAll r.rows.flatten [.entity "" [] .null] := by
  have hframable : ∀ n ∈ [Header.encode {}] ++ [], Framable n := by decide +kernel
  have hentity : (decode (stream [Header.encode {}, entityFrame (bytesField 2 entityEntry)])).toOption.any
      fun r => Value.sameAll r.rows.flatten [.entity "" [("a", .int 1)] .null] := by decide +kernel
  have hbare : (decode (stream [Header.encode {}, entityFrame []])).toOption.any
      fun r => Value.sameAll r.rows.flatten [.entity "" [] .null] := by decide +kernel
  refine ⟨?_, ?_, ?_⟩
  · have hinserts : Inserts ⟨2, .varint 0⟩ .array .array ([] ++ []) ([] ++ varintField 2 0 ++ []) :=
      .intro (by decide) isSome_tokens?_nil (isField_varintField (by decide))
    have hwithin := Within.inside (b := []) .row isSome_tokens?_nil (isField_bytesField (by decide))
      (isField_bytesField (by decide +kernel)) (.here hinserts)
    simp only [List.nil_append, List.append_nil] at hwithin
    exact (decode_of_unknown_field hframable (by decide +kernel) (by decide +kernel)).1 .frame .array (.inl rfl)
      (by decide) (fun h => nomatch h) hwithin
  · exact exists_of_any_toOption hentity
  · obtain ⟨whole, hwhole, -⟩ := exists_of_any_toOption hentity
    obtain ⟨bare, hdecode, hrows⟩ := exists_of_any_toOption hbare
    have hspoilt := (decode_of_unknown_field hframable (by decide +kernel) (by decide +kernel)).2 _
      (by decide +kernel) spoils_entityFrame ⟨whole, hwhole⟩ bare
    exact ⟨bare, hspoilt.2 hdecode, hrows⟩

end FeatureGraph.QueryResponse
