import FeatureGraph.Proofs.Quantization.Inverse
import FeatureGraph.Proofs.Result

/-! # Exact coordinates

Over the rationals a point on the grid stands for one point in the world: scale and shift. The steps between whole
positions lead to those points again. -/
namespace FeatureGraph

/-- Every rational is a coordinate, and the nearest position is exact. -/
instance gridCoordinateRat : GridCoordinate ℚ where
  ofGrid n := .ok n
  toGrid x := .ok (Number.withSign (x < 0) (Number.roundHalfEven x.num.natAbs x.den))

namespace Quantization

variable {α β : Type}

theorem pairs_map (f : α → β) : ∀ coords : List α, pairs (coords.map f) = (pairs coords).map (Prod.map f f)
  | [] => rfl
  | [x] => rfl
  | x :: y :: r => by simp only [List.map_cons, pairs, pairs_map f r, Prod.map_apply]

theorem stepsFrom_intCast (x y : ℤ) (ps : List (ℤ × ℤ)) :
    (stepsFrom x y ps).map Int.cast = stepsFrom (x : ℚ) (y : ℚ) (ps.map (Prod.map Int.cast Int.cast)) := by
  induction ps generalizing x y with
  | nil => rfl
  | cons p ps ih =>
    obtain ⟨x', y'⟩ := p
    simp only [stepsFrom, List.map_cons, ih, Int.cast_sub, Prod.map_apply]

theorem steps_intCast (ps : List (ℤ × ℤ)) :
    (steps ps).map (Int.cast : ℤ → ℚ) = steps (ps.map (Prod.map Int.cast Int.cast)) := by
  cases ps with
  | nil => rfl
  | cons p ps =>
    obtain ⟨x, y⟩ := p
    simp only [steps, List.map_cons, stepsFrom_intCast, Prod.map_apply]

theorem mapM_ofGrid (ps : List (ℤ × ℤ)) :
    ps.mapM (fun p => do
      return ((← GridCoordinate.ofGrid p.1), (← GridCoordinate.ofGrid p.2)) : _ → Except Defect (ℚ × ℚ)) =
      .ok (ps.map (Prod.map Int.cast Int.cast)) := by
  induction ps with
  | nil => rfl
  | cons p ps ih =>
    rw [List.mapM_cons, ih]
    rfl

def world (q : Quantization ℚ) (p : ℤ × ℤ) : ℚ × ℚ :=
  (q.xScale * p.1 + q.xTranslate, q.yScale * p.2 + q.yTranslate)

variable {q : Quantization ℚ}

/-- The map to the world is scale and shift. -/
theorem exists_toWorld? (hx : q.xScale ≠ 0) (hy : q.yScale ≠ 0) :
    ∃ t, q.toWorld? = some t ∧ ∀ p : ℤ × ℤ, t.apply p.1 p.2 = q.world p := by
  have hgrid : q.toGrid? = some ((Affine.shift (-q.xTranslate) (-q.yTranslate)).scaled (1 / q.xScale) (1 / q.yScale)) :=
    if_neg (by simp [hx, hy])
  refine ⟨_, congrArg (Option.map Affine.inverse) hgrid, fun p => ?_⟩
  have hdet : 1 * (1 / q.xScale) * (1 * (1 / q.yScale)) - 0 * (1 / q.xScale) * (0 * (1 / q.yScale)) ≠ 0 := by
    simp [hx, hy]
  simp only [Affine.inverse, Affine.determinant, Affine.scaled, Affine.shift, beq_iff_eq, if_neg hdet, Affine.apply,
    world, Prod.mk.injEq]
  constructor
  · field_simp
    ring
  · field_simp
    ring

theorem dequantize_steps {t : Affine ℚ} (ht : q.toWorld? = some t) (ps : List (ℤ × ℤ)) :
    q.dequantize (steps ps) = .ok (ps.map fun p => t.apply p.1 p.2) := by
  have hpositions : positions ((pairs (steps ps)).map (Prod.map (Int.cast : ℤ → ℚ) Int.cast)) =
      ps.map (Prod.map Int.cast Int.cast) := by
    rw [← pairs_map, steps_intCast, positions_pairs_steps]
  unfold dequantize
  rw [ht]
  dsimp only
  rw [mapM_ofGrid]
  show Except.ok _ = _
  rw [hpositions, List.map_map]
  rfl

end Quantization
end FeatureGraph
