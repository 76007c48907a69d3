import Mathlib
import FeatureGraph.Quantization

/-! # Quantizing and dequantizing undo each other

Over any field the map to the grid and the map to the world are inverse, and the steps between some positions lead
to those positions again. Unless a scale is zero, nothing is lost either way. -/
namespace FeatureGraph

namespace Quantization

/-! ## Positions and steps -/

section

variable {α : Type}

def flat (ps : List (α × α)) : List α := ps.flatMap fun p => [p.1, p.2]

@[simp] theorem flat_cons (p : α × α) (ps : List (α × α)) : flat (p :: ps) = p.1 :: p.2 :: flat ps := rfl

theorem flat_pairs : ∀ {coords : List α}, Even coords.length → flat (pairs coords) = coords
  | [], _ => rfl
  | [x], h => absurd h (by simp)
  | x :: y :: r, h => by
    have hr : Even r.length := by simpa [Nat.even_add_one] using h
    rw [pairs, flat_cons, flat_pairs hr]

/-- A coordinate without a partner at the end makes no pair. -/
theorem pairs_concat : ∀ {coords : List α} (z : α), Even coords.length → pairs (coords ++ [z]) = pairs coords
  | [], z, _ => rfl
  | [x], z, h => absurd h (by simp)
  | x :: y :: r, z, h => by
    have hr : Even r.length := by simpa [Nat.even_add_one] using h
    have htail := pairs_concat z hr
    simp only [List.cons_append, pairs, htail]

end

variable {K : Type} [Field K]

theorem stepsFrom_walk (x y : K) (ps : List (K × K)) : stepsFrom x y (walk x y ps) = flat ps := by
  induction ps generalizing x y with
  | nil => rfl
  | cons p ps ih =>
    obtain ⟨dx, dy⟩ := p
    simp only [walk, stepsFrom, ih, add_sub_cancel_left, flat_cons]

theorem steps_positions (ps : List (K × K)) : steps (positions ps) = flat ps := by
  cases ps with
  | nil => rfl
  | cons p ps =>
    obtain ⟨x, y⟩ := p
    simp only [positions, steps, stepsFrom_walk, flat_cons]

theorem walk_pairs_stepsFrom (x y : K) (ps : List (K × K)) : walk x y (pairs (stepsFrom x y ps)) = ps := by
  induction ps generalizing x y with
  | nil => rfl
  | cons p ps ih =>
    obtain ⟨x', y'⟩ := p
    simp only [stepsFrom, pairs, walk, add_sub_cancel, ih]

theorem positions_pairs_steps (ps : List (K × K)) : positions (pairs (steps ps)) = ps := by
  cases ps with
  | nil => rfl
  | cons p ps =>
    obtain ⟨x, y⟩ := p
    simp only [steps, pairs, positions, walk_pairs_stepsFrom]

end Quantization

/-! ## Both ways -/

variable {K : Type} [Field K] [DecidableEq K]

namespace Affine

variable {t : Affine K}

theorem inverse_apply_apply (ht : t.determinant ≠ 0) (x y : K) :
    t.inverse.apply (t.apply x y).1 (t.apply x y).2 = (x, y) := by
  obtain ⟨xx, xy, xd, yx, yy, yd⟩ := t
  simp only [determinant] at ht
  have hr : 1 / (xx * yy - xy * yx) * (xx * yy - xy * yx) = 1 := one_div_mul_cancel ht
  simp only [inverse, determinant, beq_iff_eq, if_neg ht, apply, Prod.mk.injEq]
  generalize 1 / (xx * yy - xy * yx) = r at hr ⊢
  constructor
  · linear_combination x * hr
  · linear_combination y * hr

theorem apply_inverse_apply (ht : t.determinant ≠ 0) (x y : K) :
    t.apply (t.inverse.apply x y).1 (t.inverse.apply x y).2 = (x, y) := by
  obtain ⟨xx, xy, xd, yx, yy, yd⟩ := t
  simp only [determinant] at ht
  have hr : 1 / (xx * yy - xy * yx) * (xx * yy - xy * yx) = 1 := one_div_mul_cancel ht
  simp only [inverse, determinant, beq_iff_eq, if_neg ht, apply, Prod.mk.injEq]
  generalize 1 / (xx * yy - xy * yx) = r at hr ⊢
  constructor
  · linear_combination (x - xd) * hr
  · linear_combination (y - yd) * hr

end Affine

namespace Quantization

variable {q : Quantization K}

theorem exists_toGrid? (hx : q.xScale ≠ 0) (hy : q.yScale ≠ 0) : ∃ t, q.toGrid? = some t ∧ t.determinant ≠ 0 := by
  refine ⟨_, if_neg (by simp [hx, hy]), ?_⟩
  simp [Affine.determinant, Affine.scaled, Affine.shift, hx, hy]

theorem quantize?_of_toGrid? {t : Affine K} (ht : q.toGrid? = some t) (points : List (K × K)) :
    q.quantize? points = some (steps (points.map fun p => t.apply p.1 p.2)) := by
  rw [quantize?, ht]
  rfl

theorem dequantize?_of_toGrid? {t : Affine K} (ht : q.toGrid? = some t) (coords : List K) :
    q.dequantize? coords = some ((positions (pairs coords)).map fun p => t.inverse.apply p.1 p.2) := by
  rw [dequantize?, toWorld?, ht]
  rfl

/-- Points come back from their steps, and steps from their points. A step without a partner at the end does not
count. -/
theorem quantize?_dequantize?_inverse (q : Quantization K) (hx : q.xScale ≠ 0) (hy : q.yScale ≠ 0) :
    (∀ points, (q.quantize? points).bind q.dequantize? = some points) ∧
    ∀ coords, Even coords.length →
      (q.dequantize? coords).bind q.quantize? = some coords ∧
      ∀ extra, q.dequantize? (coords ++ [extra]) = q.dequantize? coords := by
  obtain ⟨t, ht, hdet⟩ := exists_toGrid? hx hy
  constructor
  · intro points
    have hback (p : K × K) : t.inverse.apply (t.apply p.1 p.2).1 (t.apply p.1 p.2).2 = p :=
      Affine.inverse_apply_apply hdet p.1 p.2
    rw [quantize?_of_toGrid? ht, Option.bind_some, dequantize?_of_toGrid? ht, positions_pairs_steps, List.map_map]
    simp only [Function.comp_def, hback, List.map_id']
  · intro coords heven
    constructor
    · have hback (p : K × K) : t.apply (t.inverse.apply p.1 p.2).1 (t.inverse.apply p.1 p.2).2 = p :=
        Affine.apply_inverse_apply hdet p.1 p.2
      rw [dequantize?_of_toGrid? ht, Option.bind_some, quantize?_of_toGrid? ht, List.map_map]
      simp only [Function.comp_def, hback, List.map_id', steps_positions, flat_pairs heven]
    · intro extra
      rw [dequantize?_of_toGrid? ht, dequantize?_of_toGrid? ht, pairs_concat extra heven]

/-- A negative and a fractional scale, and a shift of both axes. -/
theorem quantize?_dequantize?_inverse_negative :
    let q : Quantization ℚ := ⟨1 / 1000, -2, -180, 90⟩
    (q.quantize? [(12, 34), (-5, 1 / 3)]).bind q.dequantize? = some [(12, 34), (-5, 1 / 3)] ∧
      (q.dequantize? [1000, 2000, 5, -3]).bind q.quantize? = some [1000, 2000, 5, -3] := by
  intro q
  obtain ⟨hpoints, hcoords⟩ := quantize?_dequantize?_inverse q (by norm_num [q]) (by norm_num [q])
  exact ⟨hpoints _, (hcoords [1000, 2000, 5, -3] (by decide)).1⟩

end Quantization
end FeatureGraph
