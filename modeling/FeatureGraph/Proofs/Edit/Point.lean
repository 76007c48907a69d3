import FeatureGraph.Edit.Build
import FeatureGraph.Proofs.Feature.Parts
import FeatureGraph.Proofs.Number.Nearest
import FeatureGraph.Proofs.Wire.Edits

/-! # Points that are written and read again

The coordinates are exact here. A point is written as the position on the grid that is nearest to it, and what is read
is where that position lies in the world: no farther from the point than half a step of the grid, on either axis. -/
namespace FeatureGraph

/-! ## The nearest position -/

namespace Quantization

open Number (nearest)

def place (q : Quantization ℚ) (x y : ℚ) : ℚ × ℚ := ((x - q.xTranslate) / q.xScale, (y - q.yTranslate) / q.yScale)

def nearestPosition (q : Quantization ℚ) (x y : ℚ) : ℤ × ℤ := (nearest (q.place x y).1, nearest (q.place x y).2)

section
variable {q : Quantization ℚ} {x y s c : ℚ}

theorem quantize?_point (hx : q.xScale ≠ 0) (hy : q.yScale ≠ 0) :
    q.quantize? [(x, y)] = some [(q.place x y).1, (q.place x y).2] := by
  have hgrid : q.toGrid? = some ((Affine.shift (-q.xTranslate) (-q.yTranslate)).scaled (1 / q.xScale) (1 / q.yScale)) :=
    if_neg (by simp [hx, hy])
  rw [quantize?_of_toGrid? hgrid]
  simp only [Affine.apply, Affine.scaled, Affine.shift, List.map_cons, List.map_nil, steps, stepsFrom, place,
    Option.some.injEq, List.cons.injEq, and_true]
  constructor <;> ring

/-- Rounding on the grid moves a coordinate by half a step at most. -/
theorem abs_world_sub_le (hs : s ≠ 0) : |s * nearest ((x - c) / s) + c - x| ≤ |s| / 2 := by
  have hmove : s * nearest ((x - c) / s) + c - x = s * (nearest ((x - c) / s) - (x - c) / s) := by
    field_simp
    ring
  rw [hmove, abs_mul]
  calc |s| * |(nearest ((x - c) / s) : ℚ) - (x - c) / s| ≤ |s| * (1 / 2) :=
        mul_le_mul_of_nonneg_left (Number.abs_nearest_sub_le _) (abs_nonneg s)
    _ = |s| / 2 := by ring

/-- A coordinate is not moved if it lies on the grid, and else it is. -/
theorem world_eq_iff (hs : s ≠ 0) : s * nearest ((x - c) / s) + c = x ↔ ∃ n : ℤ, (x - c) / s = n := by
  constructor
  · intro h
    exact ⟨nearest ((x - c) / s), by rw [div_eq_iff hs]; linarith⟩
  · rintro ⟨n, hn⟩
    rw [hn, Number.nearest_intCast, ← hn]
    field_simp
    ring

end

end Quantization

/-! ## Points on the wire -/

namespace Wire

theorem Varint.length_encode_le {n k : ℕ} (hn : n < 128 ^ k) (hk : 0 < k) : (encode n).length ≤ k := by
  induction k generalizing n with
  | zero => omega
  | succ k ih =>
    rw [encode]
    split
    · exact hk
    · next hlarge =>
      have hpos : 0 < k := by
        rcases Nat.eq_zero_or_pos k with rfl | h
        · omega
        · exact h
      rw [pow_succ] at hn
      exact Nat.succ_le_succ (ih (Nat.div_lt_of_lt_mul (by omega)) hpos)

end Wire

namespace Edit

open Wire Quantization

def pointAt (position : ℤ × ℤ) : Geometry := { lengths := [1], coords := [position.1, position.2] }

section
variable {position : ℤ × ℤ} (h₁ : IsInt64 position.1) (h₂ : IsInt64 position.2)
include h₁ h₂

theorem pointAt_inRange : (pointAt position).InRange where
  type := (by decide : IsInt32 0)
  parts := nofun
  lengths := by simp [pointAt]
  coords := by simp [pointAt, h₁, h₂]

/-- Each coordinate takes ten bytes at most, and what is around them eleven. -/
theorem length_encode_pointAt_le : (Any.primitive (.geometry (pointAt position))).encode.length ≤ 31 := by
  have hfirst : (Varint.encode (zigzag position.1)).length ≤ 10 :=
    Varint.length_encode_le (Nat.lt_trans (zigzag_lt_of_isInt64 h₁) (by decide)) (by decide)
  have hsecond : (Varint.encode (zigzag position.2)).length ≤ 10 :=
    Varint.length_encode_le (Nat.lt_trans (zigzag_lt_of_isInt64 h₂) (by decide)) (by decide)
  have hcoords : (packedField 2 ((pointAt position).coords.map zigzag)).length ≤ 22 := by
    have hbytes : ([zigzag position.1, zigzag position.2].flatMap Varint.encode).length ≤ 20 := by
      rw [List.flatMap_cons, List.flatMap_singleton, List.length_append]
      omega
    show (bytesField 2 ([zigzag position.1, zigzag position.2].flatMap Varint.encode)).length ≤ 22
    rw [length_bytesField_of_short (by decide) (by omega)]
    omega
  have hparts : (pointAt position).encodeParts.length ≤ 25 := by
    have hlengths : (packedField 1 (pointAt position).lengths).length = 3 := by
      show (bytesField 1 ([1].flatMap Varint.encode)).length = 3
      rw [List.flatMap_singleton, Varint.encode_of_lt (by decide), length_bytesField_of_short (by decide) (by decide)]
      rfl
    rw [Geometry.encodeParts, List.length_append]
    omega
  have hgeometry : (pointAt position).encode = bytesField 2 (pointAt position).encodeParts := by
    show [] ++ bytesField 2 (pointAt position).encodeParts ++ [] ++ [] = _
    rw [List.nil_append, List.append_nil, List.append_nil]
  have hencode : (pointAt position).encode.length ≤ 27 := by
    rw [hgeometry, length_bytesField_of_short (by decide) (by omega)]
    omega
  show (bytesField 1 (bytesField 10 (pointAt position).encode)).length ≤ 31
  have hfield : (bytesField 10 (pointAt position).encode).length = (pointAt position).encode.length + 2 :=
    length_bytesField_of_short (by decide) (by omega)
  rw [length_bytesField_of_short (by decide) (by omega)]
  omega

/-- A point on the wire is read back. -/
theorem read?_encode_pointAt :
    Any.read? (Any.primitive (.geometry (pointAt position))).encode = some (.primitive (.geometry (pointAt position))) := by
  have hback : (Any.primitive (.geometry (pointAt position))).ReadsBack :=
    (Any.WellFormed.primitive (pointAt_inRange h₁ h₂ :)).readsBack
  have hlength := length_encode_pointAt_le h₁ h₂
  exact (hback (by omega) (rootLevels + 1)).trans (if_pos (show 4 ≤ 101 by decide))

end

variable {given : Option (Quantization ℚ)} {x y : ℚ}

theorem gridPoint_eq (hx : (given.getD .identity).xScale ≠ 0) (hy : (given.getD .identity).yScale ≠ 0) :
    gridPoint x y given = .ok [((given.getD .identity).nearestPosition x y).1,
      ((given.getD .identity).nearestPosition x y).2] := by
  cases given with
  | none =>
    have hplace : (identity : Quantization ℚ).place x y = (x, y) := by simp [place, identity]
    rw [Option.getD_none, nearestPosition, hplace]
    rfl
  | some q =>
    rw [Option.getD_some] at hx hy ⊢
    unfold gridPoint
    dsimp only
    rw [quantize?_point hx hy]
    rfl

theorem wholeIn_of_isInt64 {n : ℤ} (hn : IsInt64 n) :
    wholeIn (-0x8000000000000000) 0x7FFFFFFFFFFFFFFF (.int n) = .ok n := by
  obtain ⟨hlow, hhigh⟩ := hn
  unfold wholeIn Value.asInt?
  exact if_pos ⟨hlow, by omega⟩

theorem pointValue_of_isInt64 {position : ℤ × ℤ} (hposition : gridPoint x y given = .ok [position.1, position.2])
    (h₁ : IsInt64 position.1) (h₂ : IsInt64 position.2) :
    pointValue x y given = .ok (.primitive (.geometry (pointAt position))) := by
  unfold pointValue
  rw [hposition]
  change Except.bind (List.mapM _ [position.1, position.2]) _ = _
  rw [List.mapM_cons, List.mapM_cons, List.mapM_nil, wholeIn_of_isInt64 h₁, wholeIn_of_isInt64 h₂]
  rfl

/-- What is read of one point is where its position lies in the world. -/
theorem ofQuantized?_pointAt (hx : (given.getD .identity).xScale ≠ 0) (hy : (given.getD .identity).yScale ≠ 0)
    (position : ℤ × ℤ) :
    FeatureGeometry.ofQuantized? (pointAt position).quantized given =
      .ok (some (.point ((given.getD .identity).world position))) := by
  obtain ⟨t, ht, hworld⟩ := exists_toWorld? hx hy
  unfold FeatureGeometry.ofQuantized?
  show (do return FeatureGeometry.ofPoints? _ _ (← (given.getD .identity).dequantize (steps [position]))) = _
  rw [dequantize_steps ht, ← hworld]
  rfl

/-- A point that is written with a quantization, or without one, is read back with the same as a point that lies within
half a step of the grid on either axis; it is the same point if the grid has it, and else it is not. -/
theorem pointValue_reads_back (given : Option (Quantization ℚ)) (x y : ℚ) :
    let q := given.getD .identity
    q.xScale ≠ 0 → q.yScale ≠ 0 → IsInt64 (q.nearestPosition x y).1 → IsInt64 (q.nearestPosition x y).2 →
      ∃ v g p, pointValue x y given = .ok v ∧ Any.read? v.encode = some v ∧ v.value = .ok (.geometry g) ∧
        FeatureGeometry.ofQuantized? g given = .ok (some (.point p)) ∧
        |p.1 - x| ≤ |q.xScale| / 2 ∧ |p.2 - y| ≤ |q.yScale| / 2 ∧
        (p = (x, y) ↔
          (∃ m : ℤ, (x - q.xTranslate) / q.xScale = m) ∧ ∃ n : ℤ, (y - q.yTranslate) / q.yScale = n) := by
  intro q hx hy h₁ h₂
  have hwritten := pointValue_of_isInt64 (gridPoint_eq hx hy) h₁ h₂
  have hread := ofQuantized?_pointAt hx hy (q.nearestPosition x y)
  refine ⟨_, _, _, hwritten, read?_encode_pointAt h₁ h₂, rfl, hread, abs_world_sub_le hx, abs_world_sub_le hy, ?_⟩
  rw [Prod.ext_iff]
  exact and_congr (world_eq_iff hx) (world_eq_iff hy)

/-- Steps of a half to the left and of three up, and a point that lies halfway between two positions on the first axis. -/
theorem pointValue_reads_back_negative :
    let q : Quantization ℚ := ⟨-1 / 2, 3, 10, 0⟩
    q.xScale ≠ 0 ∧ q.yScale ≠ 0 ∧ q.nearestPosition (43 / 4) 8 = (-2, 3) ∧
      ∃ v g p, pointValue (43 / 4) 8 (some q) = .ok v ∧ Any.read? v.encode = some v ∧ v.value = .ok (.geometry g) ∧
        FeatureGeometry.ofQuantized? g (some q) = .ok (some (.point p)) ∧
        |p.1 - 43 / 4| ≤ |q.xScale| / 2 ∧ |p.2 - 8| ≤ |q.yScale| / 2 ∧
        (p = (43 / 4, 8) ↔
          (∃ m : ℤ, (43 / 4 - q.xTranslate) / q.xScale = m) ∧ ∃ n : ℤ, (8 - q.yTranslate) / q.yScale = n) := by
  intro q
  have hx : q.xScale ≠ 0 := by norm_num [q]
  have hy : q.yScale ≠ 0 := by norm_num [q]
  have hnearest : q.nearestPosition (43 / 4) 8 = (-2, 3) := by decide +kernel
  refine ⟨hx, hy, hnearest, pointValue_reads_back (some q) (43 / 4) 8 hx hy ?_ ?_⟩
  · rw [Option.getD_some, hnearest]
    decide
  · rw [Option.getD_some, hnearest]
    decide

end Edit
end FeatureGraph
