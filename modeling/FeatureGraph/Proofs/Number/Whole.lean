import FeatureGraph.Number.Binary64
import Mathlib

/-! # Whole numbers as doubles

A whole number of 64 bits is far below the largest double, so rounding it never ends at an infinity. -/
namespace FeatureGraph.Number
open Float.Model (Format UnpackedFloat totalExponent)
open Float.Model.UnpackedFloat

/-! ## Logarithms -/

variable {m n : Nat}

theorem log2_le_of_lt_two_pow {k : Nat} (h : m < 2 ^ (k + 1)) : m.log2 ≤ k := by
  by_cases hm : m = 0
  · subst hm
    exact Nat.zero_le k
  · have := (Nat.log2_lt hm).2 h
    omega

theorem log2_le_of_le_add_one (h : n ≤ m + 1) : n.log2 ≤ m.log2 + 1 := by
  have hlt := Nat.lt_log2_self (n := m)
  apply log2_le_of_lt_two_pow
  rw [Nat.pow_succ]
  omega

theorem log2_mul_le (m n : Nat) : (m * n).log2 ≤ m.log2 + n.log2 + 1 := by
  have hm := Nat.lt_log2_self (n := m)
  have hn := Nat.lt_log2_self (n := n)
  apply log2_le_of_lt_two_pow
  calc m * n < 2 ^ (m.log2 + 1) * 2 ^ (n.log2 + 1) := Nat.mul_lt_mul'' hm hn
    _ = 2 ^ (m.log2 + n.log2 + 1 + 1) := by rw [← Nat.pow_add]; congr 1; omega

theorem log2_shiftLeft (hm : m ≠ 0) (s : Nat) : (m <<< s).log2 = m.log2 + s := by
  have hlow := Nat.log2_self_le hm
  have hhigh := Nat.lt_log2_self (n := m)
  rw [Nat.shiftLeft_eq, Nat.log2_eq_iff (by positivity)]
  constructor
  · rw [Nat.pow_add]
    exact Nat.mul_le_mul_right _ hlow
  · rw [Nat.add_right_comm, Nat.pow_add]
    exact Nat.mul_lt_mul_of_pos_right hhigh (by positivity)

/-! ## The size of a number -/

variable {e t t' : Int} {x y : UnpackedFloat}

theorem totalExponent_le_of_lt {k : Nat} (h : n < 2 ^ (k + 1)) : totalExponent n 0 ≤ k + 1 := by
  have hlog := log2_le_of_lt_two_pow h
  unfold totalExponent
  omega

theorem totalExponent_shiftLeft (hm : m ≠ 0) (e : Int) (s : Nat) :
    totalExponent (m <<< s) (e - s) = totalExponent m e := by
  have hlog := log2_shiftLeft hm s
  unfold totalExponent
  omega

theorem totalExponent_shiftRight (em : ExtendedMantissa) (e : Int) (s : Nat) :
    totalExponent (em >>> s).mantissa (e + s) ≤ max (totalExponent em.mantissa e) (e + s + 1) := by
  induction s with
  | zero =>
    have hself : (em >>> 0).mantissa = em.mantissa := rfl
    have hexponent : e + (0 : Nat) = e := Int.add_zero e
    rw [hself, hexponent]
    omega
  | succ s ih =>
    have hhalf : (em >>> (s + 1)).mantissa = (em >>> s).mantissa / 2 := rfl
    rw [hhalf]
    generalize (em >>> s).mantissa = m at ih
    unfold totalExponent at ih ⊢
    by_cases hm : m < 2
    · have hzero : (m / 2).log2 = 0 := by rw [Nat.div_eq_of_lt hm]; rfl
      omega
    · have hlog : m.log2 = (m / 2).log2 + 1 := by rw [Nat.log2_def, if_pos (by omega)]
      omega

theorem totalExponent_shiftToTargetExponent (m : Nat) (e : Int) (accuracy : Accuracy) :
    totalExponent (shiftToTargetExponent .binary64 m e accuracy).1.mantissa
      (shiftToTargetExponent .binary64 m e accuracy).2 ≤ max (totalExponent m e) (-1073) := by
  have hmantissa : (ExtendedMantissa.ofMantissaAndAccuracy m accuracy).mantissa = m := by
    unfold ExtendedMantissa.ofMantissaAndAccuracy
    split <;> rfl
  have htarget : Format.binary64.targetExponent (totalExponent m e) = max (totalExponent m e - 53) (-1074) := rfl
  have hlow : e + 1 ≤ totalExponent m e := by
    unfold totalExponent
    omega
  have h := totalExponent_shiftRight (.ofMantissaAndAccuracy m accuracy) e
    (Format.binary64.targetExponent (totalExponent m e) - e).toNat
  rw [hmantissa] at h
  simp only [shiftToTargetExponent, shiftToExponent]
  rw [htarget] at h ⊢
  omega

theorem roundedMantissa_le (em : ExtendedMantissa) : em.roundedMantissa ≤ em.mantissa + 1 := by
  unfold ExtendedMantissa.roundedMantissa Accuracy.roundToNearestEven
  split <;> omega

/-- Zero, or a number whose size is less than `2 ^ t`. -/
inductive Below (t : Int) : UnpackedFloat → Prop where
  | zero (s : Sign) : Below t (.zero s)
  | finite {m : Nat} {e : Int} (s : Sign) (hm : 0 < m) (h : totalExponent m e ≤ t) : Below t (.finite s m e hm)

namespace Below

theorem mono (hx : Below t x) (ht : t ≤ t') : Below t' x := by
  cases hx with
  | zero s => exact .zero s
  | finite s hm h => exact .finite s hm (h.trans ht)

theorem isInf (hx : Below t x) : x.isInf = false := by cases hx <;> rfl

theorem isNaN (hx : Below t x) : x.isNaN = false := by cases hx <;> rfl

theorem neg (hx : Below t x) : Below t x.neg := by
  cases hx with
  | zero s => exact .zero _
  | finite s hm h => exact .finite _ hm h

/-- Rounding at most doubles a number. -/
theorem roundWithAccuracy (s : Sign) (accuracy : Accuracy) (h : totalExponent m e ≤ t) (ht : -1073 ≤ t) :
    Below (t + 1) (roundWithAccuracy .binary64 s m e accuracy) := by
  have hfirst := totalExponent_shiftToTargetExponent m e accuracy
  unfold UnpackedFloat.roundWithAccuracy
  generalize shiftToTargetExponent .binary64 m e accuracy = r at hfirst
  obtain ⟨em, e₁⟩ := r
  have hround : totalExponent em.roundedMantissa e₁ ≤ totalExponent em.mantissa e₁ + 1 := by
    have hlog := log2_le_of_le_add_one (roundedMantissa_le em)
    unfold totalExponent
    omega
  have hsecond := totalExponent_shiftToTargetExponent em.roundedMantissa e₁ .exact
  dsimp only at hfirst ⊢
  split
  · exact .zero s
  · exact .finite s _ (by omega)

theorem mul (hx : Below t x) (hy : Below t' y) (ht : -1073 ≤ t + t') :
    Below (t + t' + 1) (UnpackedFloat.mul .binary64 x y) := by
  cases hx with
  | zero s => cases hy <;> exact .zero _
  | @finite m e s hm hx =>
    cases hy with
    | zero s' => exact .zero _
    | @finite n e' s' hn hy =>
      apply roundWithAccuracy _ _ _ ht
      have hlog := log2_mul_le m n
      unfold totalExponent at hx hy ⊢
      omega

theorem ofNat (h : totalExponent n 0 ≤ t) (ht : -1073 ≤ t) : Below (t + 1) (UnpackedFloat.ofNat .binary64 n) := by
  unfold UnpackedFloat.ofNat UnpackedFloat.ofInt UnpackedFloat.normalize
  split
  · next hlt =>
    rw [compare_lt_iff_lt] at hlt
    omega
  · exact .zero _
  · next hgt =>
    rw [compare_gt_iff_gt] at hgt
    have hn : n ≠ 0 := by omega
    apply roundWithAccuracy _ _ _ ht
    rw [Int.toNat_natCast, totalExponent_shiftLeft hn]
    exact h

/-- A number that is to be multiplied by a power of ten, here the zeroth, is shifted to the left first. -/
theorem ofScientific (h : totalExponent n 0 ≤ t) (ht : 0 ≤ t) :
    Below (t + 2) (UnpackedFloat.ofScientific .binary64 n 0) := by
  unfold UnpackedFloat.ofScientific
  split
  · exact .zero _
  · next hne =>
    have hbits : (2 : Int) ^ Format.binary64.exponentBits = 2048 := rfl
    have hshift := totalExponent_shiftLeft hne 0 Format.binary64.mantissaBits
    rw [Int.zero_sub] at hshift
    rw [hbits, if_neg (by omega), if_neg (by omega), if_pos (by omega)]
    have hproduct := (Below.finite .positive (by rw [Nat.shiftLeft_eq]; positivity) (hshift.le.trans h)).mul
      (Below.finite (m := 10 ^ (0 : Int).toNat) (e := 0) (t := 1) .positive (by decide) (by decide)) (by omega)
    exact hproduct.mono (by omega)

end Below

/-! ## Numbers as bits -/

/-- The exponent bits bound the size of a number, unless they are all set. -/
theorem Below.unpack {b : BitVec 64} {k : Nat} (hb : (@unpackExponent .binary64 b).toNat ≤ k)
    (hk : k < 2047) (ht : max k 1 - 1022 ≤ t) : Below t (unpack .binary64 b) := by
  have hbias : (Format.binary64.exponentBias : Int) = 1023 := rfl
  unfold UnpackedFloat.unpack
  dsimp only
  split
  · next hones =>
    have hall : (-1#11).toNat = 2047 := rfl
    rw [hones] at hb
    omega
  · split
    · split
      · exact .zero _
      · have hlog := log2_le_of_lt_two_pow (k := 51) (@unpackMantissa .binary64 b).isLt
        refine .finite _ _ ?_
        unfold totalExponent
        omega
    · have hlog := log2_le_of_lt_two_pow (k := 52) (1#1 ++ @unpackMantissa .binary64 b).isLt
      refine .finite _ _ ?_
      unfold totalExponent
      omega

theorem Below.unpack_pack (hx : Below t x) (hlow : -1073 ≤ t) (hhigh : t ≤ 972) :
    Below (t + 52) (UnpackedFloat.unpack .binary64 (pack .binary64 x)) := by
  have hbias : (Format.binary64.exponentBias : Int) = 1023 := rfl
  cases hx with
  | zero s =>
    refine .unpack (k := 0) ?_ (by omega) (by omega)
    rw [pack, packedZero, unpackExponent_packComponents]
    rfl
  | @finite m e s hm hx =>
    have hexp : e + 1 ≤ t := by
      unfold totalExponent at hx
      omega
    unfold pack
    dsimp only
    rw [if_neg (by rw [hbias]; omega)]
    split
    · refine .unpack (k := (e + 1075).toNat) ?_ (by omega) (by omega)
      rw [unpackExponent_packComponents, BitVec.toNat_ofNat, hbias]
      apply Nat.le_trans (Nat.mod_le _ _)
      omega
    · refine .unpack (k := 0) ?_ (by omega) (by omega)
      rw [unpackExponent_packComponents]
      rfl

/-! ## Whole numbers -/

/-- The natural numbers of 64 bits, and the one after them. -/
theorem below_unpack_ofNat (hn : n ≤ 2 ^ 64) : Below 200 (Float.ofNat n).toModel.unpack := by
  have hsize : totalExponent n 0 ≤ 65 := totalExponent_le_of_lt (k := 64) (by omega)
  have hofNat : Float.ofNat n = Float.ofScientific n false 0 := rfl
  rw [hofNat, Float.ofScientific]
  split
  · next hsmall =>
    -- the number is a double already, and the power of ten is one
    have hone : Below 1 (Float.ofBits 0x3FF0000000000000).toModel.unpack :=
      .finite (m := 2 ^ 52) (e := -52) .positive (by decide) (by decide)
    have hbits : n.toUInt64.toNat = n := UInt64.toNat_ofNat_of_lt' (Nat.lt_trans hsmall.1 (by decide))
    have hself : Below 118 n.toUInt64.toFloat.toModel.unpack := by
      have hpacked := (Below.ofNat hsize (by omega)).unpack_pack (by omega) (by omega)
      rw [← hbits] at hpacked
      exact hpacked
    have hproduct := (hself.mul hone (by omega)).unpack_pack (by omega) (by omega)
    exact hproduct.mono (by omega)
  · have hscientific := (Below.ofScientific hsize (by omega)).unpack_pack (by omega) (by omega)
    exact hscientific.mono (by omega)

/-- No whole number of 64 bits lies beyond the doubles. -/
theorem ofInt?_eq_some {n : Int} (hn : n.natAbs ≤ 2 ^ 64) : ofInt? n = some (Float.ofInt n) := by
  have hbelow : Below 300 (Float.ofInt n).toModel.unpack := by
    cases n with
    | ofNat n => exact (below_unpack_ofNat hn).mono (by omega)
    | negSucc n =>
      have hneg := (below_unpack_ofNat (n := n.succ) hn).neg.unpack_pack (by omega) (by omega)
      exact hneg.mono (by omega)
  have hfinite : (Float.ofInt n).isInf = false := hbelow.isInf
  rw [ofInt?]
  simp only [hfinite, Bool.false_eq_true, if_false]

/-! ## Whole parts -/

theorem toNat_unpackExponent (b : BitVec 64) :
    (@unpackExponent .binary64 b).toNat = b.toNat / 0x10000000000000 % 2048 := by
  rw [unpackExponent, BitVec.toNat_cast, BitVec.extractLsb_toNat, Nat.shiftRight_eq_div_pow]
  rfl

theorem isNaN_or_isInf_iff {x : Float} :
    x.isNaN = true ∨ x.isInf = true ↔ x.toBits.toNat / 0x10000000000000 % 2048 = 2047 := by
  have hexponent := toNat_unpackExponent x.toBits.toBitVec
  have hbits : x.toBits.toBitVec.toNat = x.toBits.toNat := rfl
  rw [hbits] at hexponent
  constructor
  · intro h
    by_contra hother
    have hlow : (@unpackExponent .binary64 x.toBits.toBitVec).toNat ≤ 2046 := by
      rw [hexponent]
      omega
    have hbelow : Below 1024 x.toModel.unpack := .unpack hlow (by omega) (by omega)
    rcases h with h | h
    · exact absurd (hbelow.isNaN.symm.trans h) (by decide)
    · exact absurd (hbelow.isInf.symm.trans h) (by decide)
  · intro h
    have hones : @unpackExponent .binary64 x.toBits.toBitVec = -1#11 := by
      rw [← BitVec.toNat_inj, hexponent, h]
      rfl
    have hunpack : x.toModel.unpack = UnpackedFloat.unpack .binary64 x.toBits.toBitVec := rfl
    rw [Float.isNaN, Float.isInf, Float.Model.isNaN, Float.Model.isInf, hunpack, UnpackedFloat.unpack]
    dsimp only
    rw [if_pos hones]
    split
    · exact .inr rfl
    · exact .inl rfl

theorem not_isNaN_of_isInf {x : Float} (h : x.isInf = true) : x.isNaN = false := by
  unfold Float.isInf Float.Model.isInf at h
  unfold Float.isNaN Float.Model.isNaN
  cases hx : x.toModel.unpack with
  | infinity s => rfl
  | _ =>
    rw [hx] at h
    cases h

/-- Only a NaN and the infinities have no whole part. -/
theorem truncate?_eq_none_iff {x : Float} : truncate? x = none ↔ x.isNaN = true ∨ x.isInf = true := by
  rw [isNaN_or_isInf_iff, truncate?, parts, partsOfBits]
  dsimp only
  by_cases hones : x.toBits.toNat / 0x10000000000000 % 2048 = 2047
  · rw [if_pos hones]
    split
    · next heq => split at heq <;> cases heq
    · simp [hones]
  · rw [if_neg hones]
    split
    · simp [hones]
    · next hnone => 
      split at hnone
      · exact (hnone _ _ _ rfl).elim
      · exact (hnone _ _ _ rfl).elim

end FeatureGraph.Number
