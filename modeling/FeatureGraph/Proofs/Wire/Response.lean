import FeatureGraph.Proofs.Wire.Any
import FeatureGraph.Wire.Query
import Mathlib

/-! # Written headers and frames of rows read back

A quantization survives bit for bit. A frame of rows can be read unless one of its values is nested too
deep. -/
namespace FeatureGraph.Wire

/-! ## Errors and transforms -/

theorem ErrorMessage.merge_encode {e : ErrorMessage} (he : IsInt32 e.code)
    (hl : e.encode.length < 0x10000000000000000) (levels : Nat) : ErrorMessage.merge levels {} e.encode = some e := by
  obtain ⟨code, message⟩ := e
  simp only [encode, List.length_append] at hl
  have hcode : Reads (levels - 1) step True {} (nonzeroField 1 (low64 code)) { code } := by
    refine .nonzero (low64_lt code) ?_ fun h => by rw [eq_zero_of_low64 (n := code) he h]
    simp only [step, signed32_low64 he]
  have hmessage : Reads (levels - 1) step True { code } (textField 2 message) { code, message } := by
    refine .text (by omega) ?_ fun h => by rw [h]
    simp only [step, text?_encode, Option.map_some]
  rw [merge, encode, (hcode.trans hmessage).fold_eq, if_pos ⟨trivial, trivial⟩]

theorem mergePair_encodePair (p : UInt64 × UInt64) (levels : Nat) :
    mergePair levels (0, 0) (encodePair p) = some p := by
  have h1 : Reads (levels - 1) pairStep True (0, 0) (doubleField 1 p.1) (p.1, 0) := by
    refine .double ?_ fun h => by rw [h]
    simp only [pairStep, UInt64.ofNat_toNat]
  have h2 : Reads (levels - 1) pairStep True (p.1, 0) (doubleField 2 p.2) p := by
    refine .double ?_ fun h => by rw [← h]
    simp only [pairStep, UInt64.ofNat_toNat]
  rw [mergePair, encodePair, (h1.trans h2).fold_eq, if_pos ⟨trivial, trivial⟩]

theorem Transform.merge_encode {s t : UInt64 × UInt64} (hl : (encode ⟨some s, t⟩).length < 0x10000000000000000)
    (levels : Nat) : merge levels {} (encode ⟨some s, t⟩) = some ⟨some s, t⟩ := by
  simp only [encode, Option.getD_some, List.length_append] at hl
  have hls := length_le_bytesField 2 (encodePair s)
  have hlt := length_le_bytesField 3 (encodePair t)
  have hscale : Reads (levels - 1) (step (levels - 1)) True {} (bytesField 2 (encodePair s)) { scale := some s } := by
    refine .bytes (by omega) ?_
    simp only [step, Option.getD_none, mergePair_encodePair, Option.map_some]
  have htranslate : Reads (levels - 1) (step (levels - 1)) True { scale := some s } (bytesField 3 (encodePair t))
      ⟨some s, t⟩ := by
    refine .bytes (by omega) ?_
    simp only [step, mergePair_encodePair, Option.map_some]
  rw [merge, encode, Option.getD_some, (hscale.trans htranslate).fold_eq, if_pos ⟨trivial, trivial⟩]

theorem Transform.quantization?_ofQuantization (q : Quantization Float) :
    (ofQuantization q).quantization? = some q := by
  simp only [ofQuantization, quantization?, Option.map_some, Float.ofBits_toBits]

/-! ## Headers and frames -/

theorem Reads.optionalMessage {α β : Type} {levels number : Nat} {step : α → Field → Option α} {a b : α}
    {encode : β → List UInt8} {o : Option β}
    (hl : (encodeOptional number encode o).length < 0x10000000000000000)
    (hs : ∀ m ∈ o, (encode m).length < 0x10000000000000000 → step a ⟨number, .bytes (encode m)⟩ = some b)
    (h0 : o = none → a = b) (hn : IsNumber number := by decide) :
    Reads levels step True a (encodeOptional number encode o) b := by
  cases o with
  | none => exact h0 rfl ▸ nil
  | some m =>
    have hm := Nat.lt_of_le_of_lt (length_le_bytesField number (encode m)) hl
    exact .bytes hm (hs m rfl hm) hn

/-- A header comes back whole if its transform has a scale. -/
theorem Header.read?_encode {h : Header} (hcode : ∀ e ∈ h.error, IsInt32 e.code)
    (hscale : ∀ t ∈ h.transform, t.scale.isSome) (hl : h.encode.length < 0x10000000000000000) :
    read? h.encode = some h := by
  obtain ⟨transform, keys, exceededLimit, error⟩ := h
  simp only [encode, List.length_append] at hl
  have hversion : Reads rootLevels step True {} (varintField 1 1) {} := .varint (by decide) rfl
  have herror : Reads rootLevels step True {} (encodeOptional 2 ErrorMessage.encode error) { error } := by
    refine .optionalMessage (by omega) (fun e he hle => ?_) fun h => by rw [h]
    simp only [step, Option.getD_none, ErrorMessage.merge_encode (hcode e he) hle, Option.map_some,
      Option.mem_def.1 he]
  have htransform : Reads rootLevels step True { error } (encodeOptional 3 Transform.encode transform)
      { transform, error } := by
    refine .optionalMessage (by omega) (fun t ht hlt => ?_) fun h => by rw [h]
    obtain ⟨s, hs⟩ := Option.isSome_iff_exists.1 (hscale t ht)
    obtain ⟨scale, translate⟩ := t
    cases hs
    simp only [step, Option.getD_none, Transform.merge_encode hlt, Option.map_some, Option.mem_def.1 ht]
  have hkeys : Reads rootLevels step True { transform, error }
      (keys.flatMap fun k => bytesField 4 (Text.Utf8.encode k)) { transform, keys, error } := by
    let acc (done : List String) : Header := { transform, keys := done, error }
    refine (Reads.all (Q := fun _ => True) acc fun done k todo hsplit => ?_).congr (by simp)
    have hk : k ∈ keys := by simp [hsplit]
    have hfield := length_le_flatMap (f := fun k => bytesField 4 (Text.Utf8.encode k)) hk
    have hlen := length_le_bytesField 4 (Text.Utf8.encode k)
    refine .bytes (by omega) ?_
    simp only [acc, step, text?_encode, Option.map_some]
  have hexceeded : Reads rootLevels step True { transform, keys, error } (nonzeroField 5 exceededLimit.toNat)
      { transform, keys, exceededLimit, error } := by
    refine .nonzero (toNat_lt exceededLimit) ?_ fun h => by rw [← bne_zero_toNat exceededLimit, h]; rfl
    simp only [step, bne_zero_toNat]
  rw [read?, encode, ((((hversion.trans herror).trans htransform).trans hkeys).trans hexceeded).fold_eq]
  simp

/-- The numbers in a frame fit their fields, and its maps have each name once. -/
structure RowFrame.InRange (r : RowFrame) : Prop where
  rows : ∀ row ∈ r.rows, ∀ v ∈ row, v.WellFormed Primitive.InRange
  error : ∀ e ∈ r.error, IsInt32 e.code

def RowFrame.Shallow (r : RowFrame) : Prop := ∀ row ∈ r.rows, Any.heightAll row < rootLevels

instance (r : RowFrame) : Decidable r.Shallow := inferInstanceAs (Decidable (∀ row ∈ r.rows, _))

theorem readRow_encodeAll {row : List Any} (hrow : ∀ v ∈ row, v.WellFormed Primitive.InRange)
    (hl : (Any.encodeAll 1 row).length < 0x10000000000000000) (levels : Nat) :
    readRow levels (Any.encodeAll 1 row) = if Any.heightAll row < levels then some row else none :=
  Any.mergeArray_encode (fun v hv => (hrow v hv).readsBack) hl levels

theorem RowFrame.read?_encode {r : RowFrame} (hr : r.InRange) (hl : r.encode.length < 0x10000000000000000) :
    read? r.encode = if r.Shallow then some r else none := by
  obtain ⟨rows, error⟩ := r
  simp only [encode, List.length_append] at hl
  have hrows : Reads rootLevels step (∀ row ∈ rows, Any.heightAll row < rootLevels) {}
      (rows.flatMap fun row => bytesField 1 (Any.encodeAll 1 row)) { rows } := by
    let acc (done : List (List Any)) : RowFrame := { rows := done }
    refine Reads.all acc fun done row todo hsplit => ?_
    have hrow : row ∈ rows := by simp [hsplit]
    have hfield := length_le_flatMap (f := fun row => bytesField 1 (Any.encodeAll 1 row)) hrow
    have hlen := length_le_bytesField 1 (Any.encodeAll 1 row)
    refine .message (by omega) ?_
    simp only [acc, step, readRow_encodeAll (hr.rows row hrow) (by omega)]
    split <;> rfl
  have herror : Reads rootLevels step True { rows } (encodeOptional 2 ErrorMessage.encode error) { rows, error } := by
    refine .optionalMessage (by omega) (fun e he hle => ?_) fun h => by rw [h]
    simp only [step, Option.getD_none, ErrorMessage.merge_encode (hr.error e he) hle, Option.map_some,
      Option.mem_def.1 he]
  rw [read?, encode]
  exact ((hrows.trans herror).congr (by simp [Shallow])).fold_eq

theorem RowFrame.read?_encode_of_shallow {r : RowFrame} (hr : r.InRange) (hs : r.Shallow)
    (hl : r.encode.length < 0x10000000000000000) : read? r.encode = some r := by
  rw [read?_encode hr hl, if_pos hs]

end FeatureGraph.Wire
