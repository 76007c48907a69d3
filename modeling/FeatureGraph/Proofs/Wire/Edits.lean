import FeatureGraph.Proofs.Wire.Response
import FeatureGraph.Wire.Edits

/-! # Written edits read back

The objects to add come back as they were, in whatever order their names are written, and so does the header. -/
namespace FeatureGraph.Wire

/-! ## Order -/

namespace EntryOrder

variable (order : EntryOrder) {α : Type} {entries : List (String × α)}

theorem mem_arrange {e : String × α} : e ∈ order.arrange entries ↔ e ∈ entries := (order.perm entries).mem_iff

theorem nodup_arrange (h : (entries.map Prod.fst).Nodup) : ((order.arrange entries).map Prod.fst).Nodup :=
  ((order.perm entries).map Prod.fst).nodup_iff.2 h

theorem arrange_singleton (e : String × α) : order.arrange [e] = [e] := List.perm_singleton.1 (order.perm [e])

theorem heightMembers_arrange (ps : Properties) : Any.heightMembers (order.arrange ps) = Any.heightMembers ps := by
  apply Nat.le_antisymm
  · rw [Any.heightMembers_le]
    exact fun m hm => Any.heightMembers_le.1 (Nat.le_refl _) m (order.mem_arrange.1 hm)
  · rw [Any.heightMembers_le]
    exact fun m hm => Any.heightMembers_le.1 (Nat.le_refl _) m (order.mem_arrange.2 hm)

end EntryOrder

variable {order : EntryOrder}

/-! ## Objects -/

/-- An object that can be written, and read by a reader with some levels. -/
structure Properties.Readable (levels : Nat) (ps : Properties) : Prop where
  names : (ps.map Prod.fst).Nodup
  values : ∀ m ∈ ps, m.2.WellFormed Primitive.InRange
  height : Any.heightMembers ps < levels

theorem Properties.Readable.mergeObject {ps : Properties} {levels : Nat} (hps : Properties.Readable levels ps)
    (hl : (Any.encodeEntries 1 (order.arrange ps)).length < 0x10000000000000000) :
    Any.mergeObject levels [] (Any.encodeEntries 1 (order.arrange ps)) = some (order.arrange ps) := by
  have hread : ∀ m ∈ order.arrange ps, m.2.ReadsBack := fun m hm => (hps.values m (order.mem_arrange.1 hm)).readsBack
  have hheight : Any.heightMembers ps + 1 ≤ levels := hps.height
  rw [Any.mergeObject_encode (order.nodup_arrange hps.names) hread hl, order.heightMembers_arrange, if_pos hheight]

theorem readObjects_encodeObjects {objects : List Properties} {levels : Nat}
    (hobjects : ∀ ps ∈ objects, Properties.Readable (levels - 1) ps)
    (hl : (encodeObjects objects order).length < 0x10000000000000000) :
    readObjects levels [] (encodeObjects objects order) = some (objects.map order.arrange) := by
  rw [readObjects, encodeObjects]
  rw [encodeObjects] at hl
  let acc (done : List Properties) : List Properties := done.map order.arrange
  refine ((Reads.all (Q := fun _ => True) acc fun done ps todo hsplit => ?_).congr (Q := True) (by simp)).fold_eq
  have hps : ps ∈ objects := by simp [hsplit]
  have hfield := length_le_flatMap (f := fun ps => bytesField 1 (Any.encodeEntries 1 (order.arrange ps))) hps
  have hlen := length_le_bytesField 1 (Any.encodeEntries 1 (order.arrange ps))
  have hread := (hobjects ps hps).mergeObject (show (Any.encodeEntries 1 (order.arrange ps)).length < _ by omega)
  refine .bytes (by omega) ?_
  simp only [hread, Option.map_some, acc, List.map_append, List.map_singleton]

/-! ## Types -/

def encodeType (t : String × List Properties) (order : EntryOrder) : List UInt8 :=
  bytesField 1 (Text.Utf8.encode t.1) ++ bytesField 2 (encodeObjects t.2 order)

theorem readAddsEntry_encodeType {t : String × List Properties} {levels : Nat}
    (hobjects : ∀ ps ∈ t.2, Properties.Readable (levels - 1 - 1) ps)
    (hl : (encodeType t order).length < 0x10000000000000000) :
    readAddsEntry levels (encodeType t order) = some (some (t.1, t.2.map order.arrange)) := by
  rw [encodeType, List.length_append] at hl
  have hname := length_le_bytesField 1 (Text.Utf8.encode t.1)
  have hlen := length_le_bytesField 2 (encodeObjects t.2 order)
  rw [readAddsEntry, encodeType, foldEntry_bytesFields (by omega) (by omega)]
  refine congrArg (Option.map some) ((Reads.trans (Q := True) (b := (t.1, [])) (.bytes (by omega) ?_)
    (.bytes (by omega) ?_)).congr (Q := True) (by simp)).fold_eq
  · simp only [text?_encode, Option.map_some]
  · simp only [readObjects_encodeObjects hobjects (show (encodeObjects t.2 order).length < _ by omega), Option.map_some]

/-- Types, and the properties of their objects, in the order in which they are written. -/
def arrangedTypes (order : EntryOrder) (types : List (String × List Properties)) : List (String × List Properties) :=
  (order.arrange types).map fun t => (t.1, t.2.map order.arrange)

/-- Types with distinct names whose objects can be read from a frame. -/
structure TypesReadable (types : List (String × List Properties)) : Prop where
  names : (types.map Prod.fst).Nodup
  objects : ∀ t ∈ types, ∀ ps ∈ t.2, Properties.Readable (rootLevels - 3) ps

theorem reads_types {α : Type} {levels number : Nat} {step : α → Field → Option α}
    {types : List (String × List Properties)} (acc : List (String × List Properties) → α) (htypes : TypesReadable types)
    (hl : (encodeAddsOf number types order).length < 0x10000000000000000)
    (hstep : ∀ done bs, step (acc done) ⟨number, .bytes bs⟩ =
      (readAddsEntry (rootLevels - 1) bs).map fun e => acc (Assoc.putAll done e.toList))
    (hn : IsNumber number := by decide) :
    Reads levels step True (acc []) (encodeAddsOf number types order) (acc (arrangedTypes order types)) := by
  let arranged (t : String × List Properties) : String × List Properties := (t.1, t.2.map order.arrange)
  have hencode : encodeAddsOf number types order =
      (order.arrange types).flatMap fun t => bytesField number (encodeType t order) := rfl
  rw [hencode] at hl ⊢
  refine (Reads.all (Q := fun _ => True) (fun done => acc (done.map arranged))
    fun done t todo hsplit => ?_).congr (by simp)
  have ht : t ∈ order.arrange types := by simp [hsplit]
  -- an entry would replace one of the same name, but there is none
  have hfresh : t.1 ∉ (done.map arranged).map Prod.fst := by
    have hnames := order.nodup_arrange htypes.names
    rw [hsplit, List.map_append, List.map_cons] at hnames
    intro hmem
    have hmem' : t.1 ∈ done.map Prod.fst := by simpa [arranged] using hmem
    exact (List.nodup_append.1 hnames).2.2 _ hmem' _ (by simp) rfl
  have hfield := length_le_flatMap (f := fun t => bytesField number (encodeType t order)) ht
  have hlen := length_le_bytesField number (encodeType t order)
  refine .bytes (by omega) ?_ hn
  rw [hstep, readAddsEntry_encodeType (htypes.objects t (order.mem_arrange.1 ht)) (by omega), Option.map_some,
    Option.toList_some, Assoc.putAll_cons, Assoc.put_of_notMem hfresh, List.map_append, List.map_singleton]
  rfl

/-! ## Frames and headers -/

def Adds.arranged (order : EntryOrder) (a : Adds) : Adds :=
  ⟨arrangedTypes order a.entities, arrangedTypes order a.relationships⟩

/-- A frame of edits is read back, in the order in which it was written. -/
theorem readEditsFrame_encodeEditsFrame {a : Adds} (hentities : TypesReadable a.entities)
    (hrelationships : TypesReadable a.relationships) (hl : (encodeEditsFrame a order).length < 0x10000000000000000) :
    readEditsFrame (encodeEditsFrame a order) = some (a.arranged order) := by
  have hlen := Nat.lt_of_le_of_lt (length_le_bytesField 1 (a.encode order)) hl
  have hmerge : Adds.merge rootLevels {} (a.encode order) = some (a.arranged order) := by
    rw [Adds.encode, List.length_append] at hlen
    rw [Adds.merge, Adds.encode]
    let before (types : List (String × List Properties)) : Adds := { entities := types }
    let after (types : List (String × List Properties)) : Adds := ⟨arrangedTypes order a.entities, types⟩
    refine ((Reads.trans (b := before (arrangedTypes order a.entities)) ?_ ?_).congr (and_self_iff (a := True))).fold_eq
    · exact reads_types before hentities (by omega) fun done bs => rfl
    · exact reads_types after hrelationships (by omega) fun done bs => rfl
  rw [readEditsFrame, encodeEditsFrame]
  refine (Reads.bytes hlen ?_).fold_eq
  simp only [hmerge]

/-- A header comes back whole if its transform has a scale. -/
theorem EditsHeader.read?_encode {h : EditsHeader} (hversion : h.minorVersion < 0x100000000)
    (hscale : ∀ t ∈ h.transform, t.scale.isSome) (hl : h.encode.length < 0x10000000000000000) :
    read? h.encode = some h := by
  obtain ⟨minorVersion, transform⟩ := h
  simp only [encode, List.length_append] at hl
  rw [read?, encode]
  dsimp only at hversion hscale ⊢
  refine ((Reads.trans (Q := True) (b := { minorVersion }) (.nonzero (by omega) ?_ ?_)
    (.optionalMessage (by omega) (fun t ht hlt => ?_) ?_)).congr (Q := True) (by simp)).fold_eq
  · simp only [low32_of_lt hversion]
  · rintro rfl
    rfl
  · obtain ⟨s, hs⟩ := Option.isSome_iff_exists.1 (hscale t ht)
    obtain ⟨scale, translate⟩ := t
    cases hs
    simp only [Option.getD_none, Transform.merge_encode hlt, Option.map_some, Option.mem_def.1 ht]
  · rintro rfl
    rfl

/-! ## How long a header is -/

theorem Varint.encode_of_lt {n : Nat} (h : n < 128) : encode n = [.ofNat n] := by rw [encode, if_pos h]

theorem length_bytesField_of_short {number : Nat} {bs : List UInt8} (hn : number < 16) (hl : bs.length < 128) :
    (bytesField number bs).length = bs.length + 2 := by
  rw [bytesField, tag, Varint.encode_of_lt (by omega), Varint.encode_of_lt hl]
  simp only [List.length_append, List.length_singleton]
  omega

theorem length_doubleField_le {number : Nat} (hn : number < 16) (bits : UInt64) :
    (doubleField number bits).length ≤ 9 := by
  unfold doubleField
  split
  · exact Nat.zero_le 9
  · rw [fixed64Field, tag, Varint.encode_of_lt (by omega), List.length_append, length_toLittle, List.length_singleton]

theorem length_encodePair_le (p : UInt64 × UInt64) : (encodePair p).length ≤ 18 := by
  have hfirst : (doubleField 1 p.1).length ≤ 9 := length_doubleField_le (by decide) p.1
  have hsecond : (doubleField 2 p.2).length ≤ 9 := length_doubleField_le (by decide) p.2
  rw [encodePair, List.length_append]
  omega

theorem Transform.length_encode_le (t : Transform) : t.encode.length ≤ 40 := by
  have hscale := length_encodePair_le (t.scale.getD (0, 0))
  have htranslate := length_encodePair_le t.translate
  rw [encode, List.length_append, length_bytesField_of_short (by decide) (by omega),
    length_bytesField_of_short (by decide) (by omega)]
  omega

theorem EditsHeader.length_encode_le {h : EditsHeader} (hversion : h.minorVersion < 128) : h.encode.length ≤ 44 := by
  have hnumber : (nonzeroField 1 h.minorVersion).length ≤ 2 := by
    unfold nonzeroField
    split
    · exact Nat.zero_le 2
    · rw [varintField, tag, Varint.encode_of_lt (by decide), Varint.encode_of_lt hversion]
      exact Nat.le_refl 2
  rw [encode, List.length_append]
  cases h.transform with
  | none =>
    rw [encodeOptional, List.length_nil]
    omega
  | some t =>
    have ht := t.length_encode_le
    rw [encodeOptional, length_bytesField_of_short (by decide) (by omega)]
    omega

end FeatureGraph.Wire
