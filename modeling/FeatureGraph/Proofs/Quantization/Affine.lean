import FeatureGraph.Proofs.Quantization.Inverse

/-! # Inverses of affine maps

Over any field a map with a determinant other than zero and its inverse undo each other, each is the inverse of the
other, and so are their determinants. The inverse of any other map sends every point to the origin. -/
namespace FeatureGraph.Affine

variable {K : Type} [Field K] [DecidableEq K] {t : Affine K}

omit [DecidableEq K] in
@[simp] theorem apply_zero (x y : K) : (zero : Affine K).apply x y = (0, 0) := by
  simp [apply, zero]

/-- The coefficients of an inverse, for a reciprocal of the determinant. -/
theorem inverse_of_mul_eq_one {r : K} (hr : r * t.determinant = 1) :
    t.inverse = ⟨t.yy * r, -t.xy * r, (t.xy * t.yd - t.xd * t.yy) * r,
      -t.yx * r, t.xx * r, (t.xd * t.yx - t.xx * t.yd) * r⟩ := by
  have ht : t.determinant ≠ 0 := right_ne_zero_of_mul_eq_one hr
  have hinv : 1 / t.determinant = r := (eq_one_div_of_mul_eq_one_left hr).symm
  simp only [inverse, beq_iff_eq, if_neg ht, hinv]

theorem inverse_of_determinant_eq_zero (ht : t.determinant = 0) : t.inverse = zero :=
  inverse_of_determinant (beq_iff_eq.2 ht)

theorem determinant_inverse (ht : t.determinant ≠ 0) : t.inverse.determinant = 1 / t.determinant := by
  have hr := one_div_mul_cancel ht
  rw [inverse_of_mul_eq_one hr]
  generalize 1 / t.determinant = r at hr
  unfold determinant at hr ⊢
  -- two of the four coefficients meet in each product, so that the reciprocal comes in twice
  linear_combination r * hr

theorem inverse_inverse (ht : t.determinant ≠ 0) : t.inverse.inverse = t := by
  have hr := one_div_mul_cancel ht
  have hback : t.determinant * t.inverse.determinant = 1 := by
    rw [determinant_inverse ht, mul_one_div_cancel ht]
  rw [inverse_of_mul_eq_one hback, inverse_of_mul_eq_one hr]
  generalize 1 / t.determinant = r at hr
  obtain ⟨xx, xy, xd, yx, yy, yd⟩ := t
  simp only [determinant] at hr ⊢
  congr 1
  · linear_combination xx * hr
  · linear_combination xy * hr
  · linear_combination r * (xx * yy - xy * yx) * xd * hr + xd * hr
  · linear_combination yx * hr
  · linear_combination yy * hr
  · linear_combination r * (xx * yy - xy * yx) * yd * hr + yd * hr

/-- A map is undone by its inverse on both sides if its determinant is not zero. Otherwise the inverse takes every
point to the origin. -/
theorem inverse_inverts (t : Affine K) :
    (t.determinant ≠ 0 →
      (∀ x y, t.inverse.apply (t.apply x y).1 (t.apply x y).2 = (x, y)) ∧
      (∀ x y, t.apply (t.inverse.apply x y).1 (t.inverse.apply x y).2 = (x, y)) ∧
      t.inverse.determinant = 1 / t.determinant ∧ t.inverse.inverse = t) ∧
    (t.determinant = 0 → t.inverse = zero ∧ ∀ x y, t.inverse.apply x y = (0, 0)) := by
  constructor
  · intro ht
    exact ⟨inverse_apply_apply ht, apply_inverse_apply ht, determinant_inverse ht, inverse_inverse ht⟩
  · intro ht
    have hzero := inverse_of_determinant_eq_zero ht
    refine ⟨hzero, fun x y => ?_⟩
    rw [hzero, apply_zero]

/-- A sheared map with a shift, and one that sends the plane to a line. -/
theorem inverse_inverts_sheared :
    let t : Affine ℚ := ⟨2, 1, 3, -1, 1 / 2, 5⟩
    let line : Affine ℚ := ⟨1, 2, 3, 2, 4, 6⟩
    (t.determinant ≠ 0 ∧ t.inverse.apply (t.apply 7 (-3)).1 (t.apply 7 (-3)).2 = (7, -3) ∧
      t.inverse.determinant = 1 / t.determinant ∧ t.inverse.inverse = t) ∧
    line.determinant = 0 ∧ line.inverse.apply 7 (-3) = (0, 0) := by
  intro t line
  have ht : t.determinant ≠ 0 := by norm_num [determinant, t]
  have hline : line.determinant = 0 := by norm_num [determinant, line]
  obtain ⟨hback, -, hdeterminant, hinverse⟩ := (inverse_inverts t).1 ht
  exact ⟨⟨ht, hback 7 (-3), hdeterminant, hinverse⟩, hline, ((inverse_inverts line).2 hline).2 7 (-3)⟩

end FeatureGraph.Affine
