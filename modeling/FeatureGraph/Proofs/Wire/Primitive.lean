import FeatureGraph.Proofs.Wire.Field
import FeatureGraph.Wire.Any

/-! # Written primitives read back

Numbers in the range of their variant come back as they were, and so do texts, bytes and geometries. A
geometry needs more levels than the reader may have left. -/
namespace FeatureGraph.Wire

/-! ## What a message can hold -/

def IsInt32 (n : Int) : Prop := -0x80000000 ≤ n ∧ n < 0x80000000

def IsInt64 (n : Int) : Prop := -0x8000000000000000 ≤ n ∧ n < 0x8000000000000000

instance (n : Int) : Decidable (IsInt32 n) := inferInstanceAs (Decidable (_ ∧ _))

instance (n : Int) : Decidable (IsInt64 n) := inferInstanceAs (Decidable (_ ∧ _))

structure Geometry.InRange (g : Geometry) : Prop where
  type : IsInt32 g.type
  parts : g.hasParts = false → g.lengths = [] ∧ g.coords = []
  lengths : ∀ n ∈ g.lengths, n < 0x100000000
  coords : ∀ n ∈ g.coords, IsInt64 n

def Primitive.InRange : Primitive → Prop
  | sint32 n => IsInt32 n
  | uint32 n => n < 0x100000000
  | sint64 n => IsInt64 n
  | uint64 n => n < 0x10000000000000000
  | date n => IsInt64 n
  | geometry g => g.InRange
  | _ => True

/-- How many messages are nested in the message of a geometry, its own included. -/
def Geometry.height (g : Geometry) : Nat := if g.hasParts then 2 else 1

def Primitive.height : Primitive → Nat
  | geometry g => g.height + 1
  | _ => 1

theorem Primitive.height_le (p : Primitive) : p.height ≤ 3 := by
  cases p with
  | geometry g =>
    rw [height, Geometry.height]
    split <;> decide
  | _ => exact Nat.le_add_left 1 2

/-! ## Numbers in fields -/

theorem zigzag_lt_of_isInt32 {n : Int} (h : IsInt32 n) : zigzag n < 0x100000000 := by
  obtain ⟨hlow, hhigh⟩ := h
  unfold zigzag
  split <;> omega

theorem zigzag_lt_of_isInt64 {n : Int} (h : IsInt64 n) : zigzag n < 0x10000000000000000 := by
  obtain ⟨hlow, hhigh⟩ := h
  unfold zigzag
  split <;> omega

theorem low32_of_lt {n : Nat} (h : n < 0x100000000) : low32 n = n := Nat.mod_eq_of_lt h

theorem low64_lt (n : Int) : low64 n < 0x10000000000000000 := by
  unfold low64
  omega

theorem signed32_low64 {n : Int} (h : IsInt32 n) : signed32 (low64 n) = n := by
  obtain ⟨hlow, hhigh⟩ := h
  unfold signed32 low64
  rw [Int.bmod_def]
  split <;> omega

theorem eq_zero_of_low64 {n : Int} (h : IsInt32 n) (h0 : low64 n = 0) : n = 0 := by
  rw [← signed32_low64 h, h0]
  rfl

theorem bne_zero_toNat (b : Bool) : (b.toNat != 0) = b := by cases b <;> rfl

theorem toNat_lt (b : Bool) : b.toNat < 0x10000000000000000 := by cases b <;> decide

theorem map_low32 {ns : List Nat} (h : ∀ n ∈ ns, n < 0x100000000) : ns.map low32 = ns := by
  calc ns.map low32 = ns.map id := List.map_congr_left fun n hn => low32_of_lt (h n hn)
    _ = ns := List.map_id ns

theorem map_unzigzag_zigzag (ns : List Int) : (ns.map zigzag).map unzigzag = ns := by
  rw [List.map_map, show unzigzag ∘ zigzag = id from funext unzigzag_zigzag, List.map_id]

theorem text?_encode (s : String) : text? (Text.Utf8.encode s) = some s := Text.Utf8.decode_encode s

/-! ## Primitives -/

theorem Geometry.fold_encodeParts {g s : Geometry} (hg : g.InRange)
    (hl : g.encodeParts.length < 0x10000000000000000) (hs : s.lengths = [] ∧ s.coords = [])
    (levels : Nat) :
    foldFields levels Geometry.partStep s g.encodeParts =
      some { s with lengths := g.lengths, coords := g.coords } := by
  obtain ⟨h1, h2⟩ := hs
  rw [encodeParts, List.length_append] at hl
  have hlengths : Reads levels partStep True s (packedField 1 g.lengths) { s with lengths := g.lengths } := by
    refine .packed (by omega) ?_ fun h => by rw [h, ← h1]
    have hread := Varint.readAll_flatMap_encode fun n hn => Nat.lt_trans (hg.lengths n hn) (by decide)
    simp [partStep, numbers?, hread, h1, map_low32 hg.lengths]
  have hcoords : Reads levels partStep True { s with lengths := g.lengths } (packedField 2 (g.coords.map zigzag))
      { s with lengths := g.lengths, coords := g.coords } := by
    refine .packed (by omega) ?_ fun h => by rw [List.map_eq_nil_iff.1 h, ← h2]
    have hread : Varint.readAll ((g.coords.map zigzag).flatMap Varint.encode) = some (g.coords.map zigzag) := by
      apply Varint.readAll_flatMap_encode
      intro n hn
      obtain ⟨c, hc, rfl⟩ := List.mem_map.1 hn
      exact zigzag_lt_of_isInt64 (hg.coords c hc)
    simp only [partStep, numbers?, hread, h2, Option.map_some, map_unzigzag_zigzag, List.nil_append]
  simpa [encodeParts] using (hlengths.trans hcoords).fold_eq

theorem Geometry.merge_encode {g : Geometry} (hg : g.InRange) (hl : g.encode.length < 0x10000000000000000)
    (levels : Nat) :
    Geometry.merge levels { hasParts := false } g.encode = if g.height ≤ levels then some g else none := by
  obtain ⟨type, hasParts, lengths, coords, hasZ, hasM⟩ := g
  cases levels with
  | zero =>
    rw [merge, if_neg]
    unfold height
    split <;> omega
  | succ levels =>
    have htype : Reads levels (step levels) True { hasParts := false } (nonzeroField 1 (low64 type))
        { type, hasParts := false } := by
      refine .nonzero (low64_lt type) ?_ fun h => by rw [eq_zero_of_low64 (n := type) hg.type h]
      simp only [step, signed32_low64 hg.type]
    have hparts : Reads levels (step levels) (height ⟨type, hasParts, lengths, coords, hasZ, hasM⟩ ≤ levels + 1)
        { type, hasParts := false }
        (if hasParts then bytesField 2 (encodeParts ⟨type, hasParts, lengths, coords, hasZ, hasM⟩) else [])
        { type, hasParts, lengths, coords } := by
      cases hasParts with
      | false =>
        obtain ⟨rfl, rfl⟩ := hg.parts rfl
        exact Reads.nil.congr (by simp [height])
      | true =>
        have hbody := length_le_bytesField 2 (encodeParts ⟨type, true, lengths, coords, hasZ, hasM⟩)
        simp only [encode, List.length_append, if_true] at hl
        have hinner := fold_encodeParts (s := { type }) hg (by omega) ⟨rfl, rfl⟩ (levels - 1)
        refine .message (by omega) ?_
        simp only [step, hinner, height, if_true]
        split <;> split <;> first | rfl | omega
    have hz : Reads levels (step levels) True { type, hasParts, lengths, coords } (nonzeroField 3 hasZ.toNat)
        { type, hasParts, lengths, coords, hasZ } := by
      refine .nonzero (toNat_lt hasZ) ?_ fun h => by rw [← bne_zero_toNat hasZ, h]; rfl
      simp only [step, bne_zero_toNat]
    have hm : Reads levels (step levels) True { type, hasParts, lengths, coords, hasZ } (nonzeroField 4 hasM.toNat)
        { type, hasParts, lengths, coords, hasZ, hasM } := by
      refine .nonzero (toNat_lt hasM) ?_ fun h => by rw [← bne_zero_toNat hasM, h]; rfl
      simp only [step, bne_zero_toNat]
    rw [merge, encode]
    exact ((((htype.trans hparts).trans hz).trans hm).congr (by simp)).fold_eq

/-- Only a geometry holds messages of its own. -/
theorem Primitive.merge_encode {p : Primitive} (hp : p.InRange) (hl : p.encode.length < 0x10000000000000000)
    (levels : Nat) : Primitive.merge levels .unset p.encode = if p.height ≤ levels then some p else none := by
  cases levels with
  | zero =>
    rw [merge, if_neg]
    cases p <;> simp [height]
  | succ levels =>
    suffices Reads levels (step levels) (p.height ≤ levels + 1) .unset p.encode p from this.fold_eq
    have hsub (number : Nat) {bs : List UInt8} (h : (bytesField number bs).length < 0x10000000000000000) :
        bs.length < 0x10000000000000000 := Nat.lt_of_le_of_lt (length_le_bytesField number bs) h
    have scalar {q : Primitive} {bs : List UInt8} (h : Reads levels (step levels) True .unset bs q)
        (hh : q.height = 1) : Reads levels (step levels) (q.height ≤ levels + 1) .unset bs q :=
      h.congr (by simp [hh])
    cases p with
    | unset => exact scalar .nil rfl
    | sint32 n =>
      have hn := zigzag_lt_of_isInt32 hp
      refine scalar (.varint (by omega) ?_) rfl
      simp only [step, low32_of_lt hn, unzigzag_zigzag]
    | uint32 n =>
      have hn : n < 0x100000000 := hp
      refine scalar (.varint (by omega) ?_) rfl
      simp only [step, low32_of_lt hn]
    | sint64 n =>
      refine scalar (.varint (zigzag_lt_of_isInt64 hp) ?_) rfl
      simp only [step, unzigzag_zigzag]
    | uint64 n => exact scalar (.varint hp rfl) rfl
    | string s =>
      refine scalar (.bytes (hsub 5 hl) ?_) rfl
      simp only [step, text?_encode, Option.map_some]
    | float bits =>
      refine scalar (.fixed32 bits.toNat_lt ?_) rfl
      simp only [step, UInt32.ofNat_toNat]
    | double bits =>
      refine scalar (.fixed64 bits.toNat_lt ?_) rfl
      simp only [step, UInt64.ofNat_toNat]
    | date n =>
      refine scalar (.varint (zigzag_lt_of_isInt64 hp) ?_) rfl
      simp only [step, unzigzag_zigzag]
    | uuid bs => exact scalar (.bytes (hsub 9 hl) rfl) rfl
    | geometry g =>
      refine .message (hsub 10 hl) ?_
      simp only [step, geometryOf, Geometry.merge_encode hp (hsub 10 hl), height, Nat.add_le_add_iff_right]
      split <;> rfl
    | bool b =>
      refine scalar (.varint (toNat_lt b) ?_) rfl
      simp only [step, bne_zero_toNat]
    | blob bs => exact scalar (.bytes (hsub 12 hl) rfl) rfl

/-- An identifier stands for something if it has 16 bytes, and every other primitive does. -/
def Primitive.HasValue : Primitive → Prop
  | uuid bs => bs.length = 16
  | _ => True

theorem Primitive.HasValue.exists_value_eq_ok {p : Primitive} (hp : p.HasValue) : ∃ x, p.value = .ok x := by
  cases p with
  | uuid bs => exact ⟨_, if_pos hp⟩
  | _ => exact ⟨_, rfl⟩

end FeatureGraph.Wire
