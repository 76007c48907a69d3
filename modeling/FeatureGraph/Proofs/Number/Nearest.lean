import FeatureGraph.Number.Fixed
import Mathlib

/-! # The nearest whole number

A quotient is rounded by its value, however it is written. Rounding moves it by a half at most, and keeps the order. -/
namespace FeatureGraph.Number

/-- The whole number nearest to a rational one, a half to the even neighbour. -/
def nearest (x : ℚ) : ℤ := withSign (x < 0) (roundHalfEven x.num.natAbs x.den)

theorem roundHalfEven_mul_left {k : ℕ} (hk : 0 < k) (num den : ℕ) :
    roundHalfEven (k * num) (k * den) = roundHalfEven num den := by
  have hrest : k * num % (k * den) = k * (num % den) := Nat.mul_mod_mul_left k num den
  have hbelow : 2 * (k * (num % den)) < k * den ↔ 2 * (num % den) < den := by
    rw [Nat.mul_left_comm, Nat.mul_lt_mul_left hk]
  have habove : k * den < 2 * (k * (num % den)) ↔ den < 2 * (num % den) := by
    rw [Nat.mul_left_comm, Nat.mul_lt_mul_left hk]
  unfold roundHalfEven
  simp only [Nat.mul_div_mul_left _ _ hk, hrest, hbelow, habove]

theorem nearest_neg (x : ℚ) : nearest (-x) = -nearest x := by
  unfold nearest
  rw [Rat.num_neg_eq_neg_num, Rat.den_neg_eq_den, Int.natAbs_neg]
  rcases lt_trichotomy x 0 with h | rfl | h
  · simp [withSign, h, h.le]
  · simp [withSign, roundHalfEven]
  · simp [withSign, h, h.le]

theorem nearest_div (num : ℕ) {den : ℕ} (hden : 0 < den) : nearest ((num : ℚ) / den) = roundHalfEven num den := by
  obtain ⟨k, hnum, hden'⟩ := Rat.exists_eq_mul_div_num_and_eq_mul_div_den num (Int.natCast_ne_zero.2 hden.ne')
  have hnonneg : (0 : ℚ) ≤ (num : ℚ) / den := by positivity
  rw [Int.cast_natCast, Int.cast_natCast] at hnum hden'
  have hk : 0 < k := by
    have hpos : 0 < k * ((num : ℚ) / den).den := by
      rw [← hden']
      exact_mod_cast hden
    exact pos_of_mul_pos_left hpos (by positivity)
  obtain ⟨k, rfl⟩ := Int.eq_ofNat_of_zero_le hk.le
  have hsize : (((num : ℚ) / den).num.natAbs : ℤ) = ((num : ℚ) / den).num :=
    Int.natAbs_of_nonneg (Rat.num_nonneg.2 hnonneg)
  rw [← hsize] at hnum
  have hnum' : num = k * ((num : ℚ) / den).num.natAbs := by exact_mod_cast hnum
  have hden'' : den = k * ((num : ℚ) / den).den := by exact_mod_cast hden'
  have hreduced := roundHalfEven_mul_left (Int.natCast_pos.1 hk) ((num : ℚ) / den).num.natAbs ((num : ℚ) / den).den
  rw [← hnum', ← hden''] at hreduced
  rw [nearest, decide_eq_false (not_lt.2 hnonneg), hreduced]
  rfl

/-- A signed quotient is rounded to the whole number that is nearest to its value. -/
theorem withSign_roundHalfEven (negative : Bool) (num : ℕ) {den : ℕ} (hden : 0 < den) :
    withSign negative (roundHalfEven num den) =
      nearest (if negative then -((num : ℚ) / den) else (num : ℚ) / den) := by
  cases negative with
  | false => exact (nearest_div num hden).symm
  | true =>
    rw [if_pos rfl, nearest_neg, nearest_div num hden]
    rfl

/-- A whole number that none is nearer to a rational one than; of two that are as near, the even one. -/
structure IsNearest (x : ℚ) (n : ℤ) : Prop where
  close : |(n : ℚ) - x| ≤ 1 / 2
  even : |(n : ℚ) - x| = 1 / 2 → Even n

theorem IsNearest.neg {x : ℚ} {n : ℤ} (h : IsNearest x n) : IsNearest (-x) (-n) := by
  have hdistance : |((-n : ℤ) : ℚ) - -x| = |(n : ℚ) - x| := by
    rw [← abs_neg]
    push_cast
    ring_nf
  refine ⟨hdistance.trans_le h.close, fun htie => (h.even ?_).neg⟩
  rw [← hdistance, htie]

/-- There is but one: of two next to each other, one is odd. -/
theorem IsNearest.unique {x : ℚ} {m n : ℤ} (hm : IsNearest x m) (hn : IsNearest x n) : m = n := by
  wlog hlt : m < n generalizing m n with hwlog
  · rcases lt_or_eq_of_le (not_lt.1 hlt) with hgt | heq
    · exact (hwlog hn hm hgt).symm
    · exact heq.symm
  have hstep : (m : ℚ) + 1 ≤ n := by exact_mod_cast hlt
  have hlow := abs_le.1 hm.close
  have hhigh := abs_le.1 hn.close
  have heven : Even m := hm.even (by rw [abs_of_nonpos] <;> linarith)
  have heven' : Even n := hn.even (by rw [abs_of_nonneg] <;> linarith)
  have hnext : n = m + 1 := by
    have hle : (n : ℚ) ≤ m + 1 := by linarith
    exact le_antisymm (by exact_mod_cast hle) hlt
  rw [hnext] at heven'
  exact absurd heven (Int.even_add_one.1 heven')

theorem even_roundHalfEven (num : ℕ) {den : ℕ} (hden : 0 < den)
    (h : 2 * num = 2 * (roundHalfEven num den * den) + den ∨ 2 * (roundHalfEven num den * den) = 2 * num + den) :
    Even (roundHalfEven num den) := by
  have hsplit : num / den * den + num % den = num := Nat.div_add_mod' num den
  have hless : num % den < den := Nat.mod_lt num hden
  unfold roundHalfEven at h ⊢
  dsimp only at h ⊢
  generalize num / den = q at h hsplit ⊢
  generalize num % den = r at h hsplit hless ⊢
  rcases lt_trichotomy (2 * r) den with hbelow | htie | habove
  · rw [if_pos hbelow] at h
    omega
  · rw [if_neg htie.not_lt, if_neg htie.not_gt, Nat.even_iff]
    split <;> omega
  · rw [if_neg habove.not_gt, if_pos habove, Nat.add_one_mul q den] at h
    omega

theorem isNearest_div (num : ℕ) {den : ℕ} (hden : 0 < den) : IsNearest ((num : ℚ) / den) (roundHalfEven num den) := by
  obtain ⟨hlow, hhigh⟩ := roundHalfEven_within num hden
  have heven := even_roundHalfEven num hden
  generalize roundHalfEven num den = r at hlow hhigh heven
  have hpos : (0 : ℚ) < den := by exact_mod_cast hden
  have hlow' : 2 * (num : ℚ) ≤ 2 * (r * den) + den := by exact_mod_cast hlow
  have hhigh' : 2 * ((r : ℚ) * den) ≤ 2 * num + den := by exact_mod_cast hhigh
  have hdistance : |((r : ℤ) : ℚ) - num / den| = |(r : ℚ) * den - num| / den := by
    rw [Int.cast_natCast, ← abs_of_pos hpos, ← abs_div, abs_of_pos hpos]
    congr 1
    field_simp
  constructor
  · rw [hdistance, div_le_iff₀ hpos, abs_le]
    constructor <;> linarith
  · rw [hdistance, div_eq_iff hpos.ne', Int.even_coe_nat]
    intro htie
    apply heven
    rcases abs_eq (by positivity) |>.1 htie with htie | htie
    · right
      have hsum : 2 * ((r : ℚ) * den) = 2 * num + den := by linarith
      exact_mod_cast hsum
    · left
      have hsum : 2 * (num : ℚ) = 2 * (r * den) + den := by linarith
      exact_mod_cast hsum

theorem isNearest_nearest (x : ℚ) : IsNearest x (nearest x) := by
  have hnonneg {x : ℚ} (hx : 0 ≤ x) : IsNearest x (nearest x) := by
    have hsize : (x.num.natAbs : ℚ) = x.num := by
      rw [Nat.cast_natAbs, abs_of_nonneg (Rat.num_nonneg.2 hx)]
    have hquotient : x = (x.num.natAbs : ℚ) / x.den := by rw [hsize, Rat.num_div_den]
    rw [hquotient, nearest_div _ x.den_pos]
    exact isNearest_div _ x.den_pos
  rcases le_total 0 x with hx | hx
  · exact hnonneg hx
  · have hneg := (hnonneg (neg_nonneg.2 hx)).neg
    rwa [nearest_neg, neg_neg, neg_neg] at hneg

theorem isNearest_iff {x : ℚ} {n : ℤ} : IsNearest x n ↔ nearest x = n := by
  constructor
  · exact fun h => (isNearest_nearest x).unique h
  · rintro rfl
    exact isNearest_nearest x

theorem abs_nearest_sub_le (x : ℚ) : |(nearest x : ℚ) - x| ≤ 1 / 2 := (isNearest_nearest x).close

theorem nearest_eq_of_abs_sub_lt {n : ℤ} {x : ℚ} (h : |x - n| < 1 / 2) : nearest x = n := by
  have hclose := abs_nearest_sub_le x
  have hlt : |nearest x - n| < 1 := by
    have hdistance : |((nearest x - n : ℤ) : ℚ)| < 1 := by
      push_cast
      calc |(nearest x : ℚ) - n| ≤ |(nearest x : ℚ) - x| + |x - n| := abs_sub_le _ _ _
        _ < 1 := by linarith
    exact_mod_cast hdistance
  exact sub_eq_zero.1 (Int.abs_lt_one_iff.1 hlt)

theorem nearest_intCast (n : ℤ) : nearest n = n := nearest_eq_of_abs_sub_lt (by norm_num)

/-- Of two numbers the greater one is not rounded to less. -/
theorem nearest_mono {x y : ℚ} (h : x ≤ y) : nearest x ≤ nearest y := by
  rcases h.eq_or_lt with rfl | hlt
  · exact le_rfl
  · by_contra hmore
    have hstep : (nearest y : ℚ) + 1 ≤ nearest x := by exact_mod_cast not_le.1 hmore
    have hx := (abs_le.1 (abs_nearest_sub_le x)).2
    have hy := (abs_le.1 (abs_nearest_sub_le y)).1
    linarith

end FeatureGraph.Number
