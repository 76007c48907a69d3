import FeatureGraph.Proofs.Number.Exact

/-! # The order of the doubles

Two doubles that are finite are in the order of the numbers that they are. -/
namespace FeatureGraph.Number
open Float.Model.UnpackedFloat

variable {m m' : Nat} {e e' : Int}

/-- A number in its form is less than every one with a greater exponent. -/
theorem IsNormal.lt_of_exponent_lt (h : IsNormal m e) (h' : IsNormal m' e') (hlt : e < e') :
    (m : ℚ) * 2 ^ e < m' * 2 ^ e' := by
  have hfull : 2 ^ 52 ≤ m' := h'.full.resolve_right (by have := h.le; omega)
  have hm : (m : ℚ) < 2 ^ 53 := by exact_mod_cast h.lt
  have hm' : (2 : ℚ) ^ 52 ≤ m' := by exact_mod_cast hfull
  have hstep : (2 : ℚ) ^ (e + 1) ≤ 2 ^ e' := zpow_le_zpow_right₀ (by norm_num) hlt
  calc (m : ℚ) * 2 ^ e < 2 ^ 53 * 2 ^ e := mul_lt_mul_of_pos_right hm (by positivity)
    _ = 2 ^ 52 * 2 ^ (e + 1) := by rw [zpow_add_one₀ (by norm_num)]; ring
    _ ≤ m' * 2 ^ e' := mul_le_mul hm' hstep (by positivity) (by positivity)

/-- Numbers in their form are compared by the exponent, and then by the mantissa. -/
theorem IsNormal.compare_eq (h : IsNormal m e) (h' : IsNormal m' e') :
    (compare e e').then (compare m m') = compare ((m : ℚ) * 2 ^ e) (m' * 2 ^ e') := by
  rcases lt_trichotomy e e' with hlt | rfl | hgt
  · rw [compare_lt_iff_lt.2 hlt, compare_lt_iff_lt.2 (h.lt_of_exponent_lt h' hlt)]
    rfl
  · have hpos : (0 : ℚ) < 2 ^ e := by positivity
    rw [compare_eq_iff_eq.2 rfl]
    show compare m m' = _
    rcases lt_trichotomy m m' with hm | rfl | hm
    · rw [compare_lt_iff_lt.2 hm, compare_lt_iff_lt.2 (mul_lt_mul_of_pos_right (by exact_mod_cast hm) hpos)]
    · rw [compare_eq_iff_eq.2 rfl, compare_eq_iff_eq.2 rfl]
    · rw [compare_gt_iff_gt.2 hm, compare_gt_iff_gt.2 (mul_lt_mul_of_pos_right (by exact_mod_cast hm) hpos)]
  · rw [compare_gt_iff_gt.2 hgt, compare_gt_iff_gt.2 (h'.lt_of_exponent_lt h hgt)]
    rfl

theorem compare_neg_neg (a b : ℚ) : compare (-a) (-b) = (compare a b).swap := by
  rcases lt_trichotomy a b with h | rfl | h
  · rw [compare_lt_iff_lt.2 h, compare_gt_iff_gt.2 (neg_lt_neg h)]
    rfl
  · rw [compare_eq_iff_eq.2 rfl, compare_eq_iff_eq.2 rfl]
    rfl
  · rw [compare_gt_iff_gt.2 h, compare_lt_iff_lt.2 (neg_lt_neg h)]
    rfl

theorem compare_eq_compare {u v : Float.Model.UnpackedFloat} (hu : InForm u) (hv : InForm v) {a b : ℚ}
    (ha : (partsOfUnpacked u).exactValue? = some (.finite a))
    (hb : (partsOfUnpacked v).exactValue? = some (.finite b)) : u.compare v = some (compare a b) := by
  have hpos {m : Nat} (e : Int) (hm : 0 < m) : 0 < (m : ℚ) * 2 ^ e := by positivity
  cases u with
  | notANumber => cases ha
  | infinity s => cases ha
  | zero s =>
    rw [exactValue?_zero] at ha
    cases ha
    cases v with
    | notANumber => cases hb
    | infinity t => cases hb
    | zero t =>
      rw [exactValue?_zero] at hb
      cases hb
      rw [compare_eq_iff_eq.2 rfl]
      rfl
    | finite t m e hm =>
      have hsize := hpos e hm
      cases t <;> cases hb
      · exact congrArg some (compare_gt_iff_gt.2 (neg_lt_zero.2 hsize)).symm
      · exact congrArg some (compare_lt_iff_lt.2 hsize).symm
  | finite s m e hm =>
    have hsize := hpos e hm
    cases v with
    | notANumber => cases hb
    | infinity t => cases hb
    | zero t =>
      rw [exactValue?_zero] at hb
      cases hb
      cases s <;> cases ha
      · exact congrArg some (compare_lt_iff_lt.2 (neg_lt_zero.2 hsize)).symm
      · exact congrArg some (compare_gt_iff_gt.2 hsize).symm
    | finite t m' e' hm' =>
      have hsize' := hpos e' hm'
      have hform := IsNormal.compare_eq hu hv
      cases s <;> cases t <;> cases ha <;> cases hb
      · exact congrArg some ((congrArg Ordering.swap hform).trans (compare_neg_neg _ _).symm)
      · exact congrArg some (compare_lt_iff_lt.2 ((neg_lt_zero.2 hsize).trans hsize')).symm
      · exact congrArg some (compare_gt_iff_gt.2 ((neg_lt_zero.2 hsize').trans hsize)).symm
      · exact congrArg some hform

def HasValue (x : Float) (q : ℚ) : Prop := exactValue? x = some (.finite q)

theorem HasValue.unique {x : Float} {q q' : ℚ} (h : HasValue x q) (h' : HasValue x q') : q = q' := by
  cases h.symm.trans h'
  rfl

/-- A double is at most another if the number that it is, is. -/
theorem HasValue.le_iff {x y : Float} {a b : ℚ} (hx : HasValue x a) (hy : HasValue y b) : x ≤ y ↔ a ≤ b := by
  rw [HasValue, exactValue?, parts_eq_partsOfUnpacked] at hx hy
  have hcompare := compare_eq_compare (inForm_unpack x.toBits.toBitVec) (inForm_unpack y.toBits.toBitVec) hx hy
  have hle : x ≤ y ↔ (x.toModel.unpack.compare y.toModel.unpack).any (·.isLE) = true := decide_eq_true_iff
  have hsome : x.toModel.unpack.compare y.toModel.unpack = some (compare a b) := hcompare
  rw [hle, hsome, Option.any_some, Ordering.isLE_iff_ne_gt]
  exact compare_le_iff_le

end FeatureGraph.Number
