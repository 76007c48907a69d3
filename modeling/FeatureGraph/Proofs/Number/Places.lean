import FeatureGraph.Number.Fixed
import FeatureGraph.Proofs.Number.Nearest
import FeatureGraph.Proofs.Number.Rounding

/-! # Doubles rounded to six places

A double that is rounded to six places is a number of millionths, but for the rounding to a double again. This number
stays the same when it is rounded once more, and the doubles are in the order of these numbers. -/
namespace FeatureGraph.Number
open Float.Model (Format UnpackedFloat)
open Float.Model.UnpackedFloat

variable {x y : Float} {q : ℚ} {n : ℕ}

/-! ## Negation -/

theorem exponent_le_of_unpack {b : BitVec 64} {s : Sign} {m : Nat} {e : Int} {hm : 0 < m}
    (h : unpack .binary64 b = .finite s m e hm) : e ≤ 971 := by
  have hbias : (Format.binary64.exponentBias + Format.binary64.mantissaBitsWithoutImplicit : Int) = 1075 := rfl
  have hlt : (@unpackExponent .binary64 b).toNat < 2048 := (@unpackExponent .binary64 b).isLt
  unfold UnpackedFloat.unpack at h
  dsimp only at h
  rw [hbias] at h
  split at h
  · split at h <;> cases h
  · next hones =>
    have hne : (@unpackExponent .binary64 b).toNat ≠ 2047 := fun h => hones (BitVec.eq_of_toNat_eq h)
    split at h
    · next hzero =>
      rw [hzero] at h
      split at h <;> cases h
      decide
    · cases h
      omega

theorem hasValue_iff : HasValue x q ↔ (partsOfUnpacked x.toModel.unpack).exactValue? = some (.finite q) := by
  rw [HasValue, exactValue?, parts_eq_partsOfUnpacked]

theorem HasValue.neg (h : HasValue x q) : HasValue (-x) (-q) := by
  have hmodel : (-x).toModel.unpack = unpack .binary64 (pack .binary64 x.toModel.unpack.neg) := rfl
  have hform : InForm x.toModel.unpack := inForm_unpack x.toBits.toBitVec
  rw [hasValue_iff] at h ⊢
  rw [hmodel]
  cases hx : x.toModel.unpack with
  | notANumber =>
    rw [hx] at h
    cases h
  | infinity s =>
    rw [hx] at h
    cases h
  | zero s =>
    rw [hx, exactValue?_zero] at h
    cases h
    have hback : unpack .binary64 (pack .binary64 (UnpackedFloat.zero s).neg) = (UnpackedFloat.zero s).neg := by
      cases s <;> rfl
    rw [hback, neg_zero]
    exact exactValue?_zero _
  | finite s m e hm =>
    rw [hx] at h hform
    have hback : unpack .binary64 (pack .binary64 (UnpackedFloat.finite s m e hm).neg) = .finite (-s) m e hm :=
      IsNormal.unpack_pack hform (exponent_le_of_unpack hx) (-s) hm
    rw [hback]
    cases s <;> cases h
    · exact congrArg (some ∘ Exact.finite) (neg_neg _).symm
    · rfl

/-! ## Millionths -/

section
variable (hn : 0 < n) (hlt : n < 2 ^ 53)
include hn hlt

/-- A number of millionths is divided by a million, which is a double as well. -/
theorem exists_hasValue_ofScientific :
    ∃ q, HasValue (Float.ofScientific n true 6) q ∧ |q - n / 10 ^ 6| ≤ (n : ℚ) / 10 ^ 6 / 2 ^ 52 := by
  have hquotient : Float.ofScientific n true 6 = n.toUInt64.toFloat / Float.ofBits 0x412E848000000000 := by
    unfold Float.ofScientific
    rw [dif_pos ⟨hlt, by decide⟩]
    rfl
  have hmillion : (Float.ofBits 0x412E848000000000).toModel.unpack =
      .finite .positive 8589934592000000 (-33) (by decide) := by rfl
  have hlog := (Nat.log2_lt hn.ne').2 hlt
  have hpos : 0 < fullMantissa n := by
    have hlow := (fullMantissa_bounds hn hlt).1
    omega
  have hvalue : (n : ℚ) / 10 ^ 6 = fullMantissa n * 2 ^ ((n.log2 : ℤ) - 52) / ((8589934592000000 : ℕ) * 2 ^ (-33 : ℤ)) := by
    rw [fullMantissa_mul hn hlt]
    norm_num
  rw [hquotient]
  exact exists_hasValue_div (log2_fullMantissa hn hlt) (by decide) (unpack_toFloat hn hlt hpos) hmillion (by omega)
    (by omega) hvalue

end

def millionths (negative : Bool) (units : ℕ) : Decimal := ⟨negative, units, -6⟩

theorem toFloat_millionths_zero (negative : Bool) : HasValue (millionths negative 0).toFloat 0 := by
  have hzero : (0.0 : Float).toModel.unpack = .zero .positive := by rfl
  have hvalue : HasValue 0.0 0 := by
    rw [hasValue_iff, hzero]
    exact exactValue?_zero _
  cases negative with
  | false => exact hvalue
  | true =>
    have hneg := hvalue.neg
    rw [neg_zero] at hneg
    exact hneg

theorem exists_hasValue_toFloat (negative : Bool) {units : ℕ} (hunits : units ≤ 10 ^ 12) :
    ∃ q, HasValue (millionths negative units).toFloat q ∧ |q - withSign negative units / 10 ^ 6| ≤ 1 / 10 ^ 9 := by
  rcases Nat.eq_zero_or_pos units with rfl | hpos
  · refine ⟨0, toFloat_millionths_zero negative, ?_⟩
    cases negative <;> norm_num [withSign]
  · obtain ⟨q, hq, herror⟩ := exists_hasValue_ofScientific hpos (by omega)
    have hsmall : |q - units / 10 ^ 6| ≤ 1 / 10 ^ 9 := by
      have hbound : (units : ℚ) ≤ 10 ^ 12 := by exact_mod_cast hunits
      refine herror.trans ?_
      linarith
    have hlength : (decimalDigits units).length ≤ 13 :=
      (Nat.length_toDigits_le_iff (by decide) (by decide)).2 (by omega)
    have hfloat : (millionths negative units).toFloat =
        if negative then -Float.ofScientific units true 6 else Float.ofScientific units true 6 := by
      have hlow : ¬((decide (units = 0) || decide (((decimalDigits units).length : ℤ) + -6 < -400)) = true) := by
        simp only [Bool.or_eq_true, decide_eq_true_eq]
        omega
      have hhigh : ¬((400 : ℤ) < ((decimalDigits units).length : ℤ) + -6) := by omega
      have hsign : ¬((0 : ℤ) ≤ -6) := by decide
      unfold Decimal.toFloat millionths
      dsimp only
      rw [if_neg hlow, if_neg hhigh, if_neg hsign]
      rfl
    rw [hfloat]
    cases negative with
    | false => exact ⟨q, hq, hsmall⟩
    | true =>
      refine ⟨-q, hq.neg, ?_⟩
      have hself : -q - (withSign true units : ℤ) / 10 ^ 6 = -(q - units / 10 ^ 6) := by
        simp only [withSign, if_true]
        push_cast
        ring
      rw [hself, abs_neg]
      exact hsmall

theorem withSign_eq_iff {negative negative' : Bool} {units units' : ℕ} :
    withSign negative units = withSign negative' units' ↔ units = units' ∧ (units = 0 ∨ negative = negative') := by
  cases negative <;> cases negative' <;> simp [withSign] <;> omega

/-- The value of some millionths does not depend on the sign of a zero. -/
theorem hasValue_toFloat_congr {negative negative' : Bool} {units units' : ℕ}
    (h : withSign negative units = withSign negative' units') (hq : HasValue (millionths negative units).toFloat q) :
    HasValue (millionths negative' units').toFloat q := by
  obtain ⟨rfl, rfl | rfl⟩ := withSign_eq_iff.1 h
  · rw [hq.unique (toFloat_millionths_zero negative)]
    exact toFloat_millionths_zero negative'
  · exact hq

/-! ## Rounding -/

theorem exists_parts (hx : HasValue x q) : ∃ negative m e, parts x = .finite negative m e := by
  unfold HasValue exactValue? at hx
  cases hparts : parts x with
  | finite negative m e => exact ⟨negative, m, e, rfl⟩
  | _ =>
    rw [hparts] at hx
    cases hx

/-- Units of the last place are nearest to the number that a double is. -/
theorem withSign_unitsOf {negative : Bool} {m : Nat} {e : Int} (hparts : parts x = .finite negative m e)
    (hx : HasValue x q) (places : ℕ) : withSign negative (unitsOf places m e) = nearest (10 ^ places * q) := by
  rw [HasValue, exactValue?, hparts] at hx
  cases hx
  obtain ⟨hden, hdiv⟩ := scaled_div m e places
  rw [unitsOf, withSign_roundHalfEven negative _ hden, hdiv]
  congr 1
  cases negative <;> simp [mul_comm]

/-- The number that a rounded double is written from. -/
theorem exists_roundPlaces_eq (hx : HasValue x q) : ∃ negative units,
    roundPlaces 6 x = (millionths negative units).toFloat ∧ withSign negative units = nearest (10 ^ 6 * q) := by
  obtain ⟨negative, m, e, hparts⟩ := exists_parts hx
  refine ⟨negative, unitsOf 6 m e, ?_, withSign_unitsOf hparts hx 6⟩
  rw [roundPlaces, hparts]
  rfl

/-- A double is some millionths, when it is rounded. -/
def InMillionths (x : Float) (n : ℤ) : Prop := ∃ q, HasValue x q ∧ nearest (10 ^ 6 * q) = n

/-- Rounding a double that is not too large leaves it next to its millionths. -/
theorem InMillionths.exists_rounded {n : ℤ} (hx : InMillionths x n) (hn : |n| ≤ 10 ^ 12) :
    ∃ negative units, roundPlaces 6 x = (millionths negative units).toFloat ∧ withSign negative units = n ∧
      ∃ q, HasValue (roundPlaces 6 x) q ∧ |q - n / 10 ^ 6| ≤ 1 / 10 ^ 9 := by
  obtain ⟨q, hq, rfl⟩ := hx
  obtain ⟨negative, units, hround, hunits⟩ := exists_roundPlaces_eq hq
  have hsize : units ≤ 10 ^ 12 := by
    rw [← hunits, abs_le] at hn
    cases negative <;> simp [withSign] at hn <;> omega
  obtain ⟨q', hq', herror⟩ := exists_hasValue_toFloat negative hsize
  rw [hunits] at herror
  exact ⟨negative, units, hround, hunits, q', hround ▸ hq', herror⟩

theorem nearest_of_abs_sub_millionths_le {n : ℤ} (h : |q - n / 10 ^ 6| ≤ 1 / 10 ^ 9) : nearest (10 ^ 6 * q) = n := by
  apply nearest_eq_of_abs_sub_lt
  have hscale : 10 ^ 6 * q - n = 10 ^ 6 * (q - n / 10 ^ 6) := by ring
  rw [hscale, abs_mul, abs_of_pos (by norm_num)]
  linarith

/-- Rounding keeps the millionths. -/
theorem InMillionths.rounded {n : ℤ} (hx : InMillionths x n) (hn : |n| ≤ 10 ^ 12) :
    InMillionths (roundPlaces 6 x) n := by
  obtain ⟨-, -, -, -, q, hq, herror⟩ := hx.exists_rounded hn
  exact ⟨q, hq, nearest_of_abs_sub_millionths_le herror⟩

/-- Rounded doubles are in the order of their millionths. -/
theorem InMillionths.rounded_le_iff {n n' : ℤ} (hx : InMillionths x n) (hy : InMillionths y n')
    (hn : |n| ≤ 10 ^ 12) (hn' : |n'| ≤ 10 ^ 12) : roundPlaces 6 x ≤ roundPlaces 6 y ↔ n ≤ n' := by
  obtain ⟨negative, units, hround, hunits, q, hq, herror⟩ := hx.exists_rounded hn
  obtain ⟨negative', units', hround', hunits', q', hq', herror'⟩ := hy.exists_rounded hn'
  rw [hq.le_iff hq']
  rw [abs_le] at herror herror'
  rcases lt_trichotomy n n' with hlt | heq | hgt
  · have hstep : (n : ℚ) + 1 ≤ n' := by exact_mod_cast hlt
    exact iff_of_true (by linarith) hlt.le
  · have hsame : HasValue (roundPlaces 6 y) q := by
      rw [hround']
      exact hasValue_toFloat_congr (hunits.trans (heq.trans hunits'.symm)) (hround ▸ hq)
    exact iff_of_true (hsame.unique hq').le heq.le
  · have hstep : (n' : ℚ) + 1 ≤ n := by exact_mod_cast hgt
    exact iff_of_false (by linarith) hgt.not_ge

/-! ## The double nearest to some millionths -/

/-- The number that a double is; zero if it is none. -/
def value (x : Float) : ℚ :=
  match exactValue? x with
  | some (.finite q) => q
  | _ => 0

theorem HasValue.value_eq (h : HasValue x q) : value x = q := by
  rw [value, h]

theorem hasValue_of_parts {negative : Bool} {m : Nat} {e : Int} (h : parts x = .finite negative m e) :
    HasValue x (if negative then -(m * 2 ^ e) else m * 2 ^ e) := by
  rw [HasValue, exactValue?, h]
  rfl

def ofMillionths (n : ℤ) : Float := (millionths (n < 0) n.natAbs).toFloat

section
variable {n n' : ℤ} (hn : |n| ≤ 10 ^ 12) (hn' : |n'| ≤ 10 ^ 12)
include hn

theorem hasValue_ofMillionths :
    HasValue (ofMillionths n) (value (ofMillionths n)) ∧ |value (ofMillionths n) - n / 10 ^ 6| ≤ 1 / 10 ^ 9 := by
  have hsign : withSign (n < 0) n.natAbs = n := by
    unfold withSign
    split <;> next h => simp at h; omega
  have hsize : n.natAbs ≤ 10 ^ 12 := by
    rw [Int.abs_eq_natAbs] at hn
    omega
  obtain ⟨q, hq, herror⟩ := exists_hasValue_toFloat (n < 0) hsize
  rw [hsign] at herror
  unfold ofMillionths
  rw [hq.value_eq]
  exact ⟨hq, herror⟩

theorem nearest_value_ofMillionths : nearest (10 ^ 6 * value (ofMillionths n)) = n := by
  obtain ⟨-, herror⟩ := hasValue_ofMillionths hn
  exact nearest_of_abs_sub_millionths_le herror

include hn'

theorem value_ofMillionths_le (h : n ≤ n') : value (ofMillionths n) ≤ value (ofMillionths n') := by
  rcases h.eq_or_lt with rfl | hlt
  · exact le_rfl
  · obtain ⟨-, herror⟩ := hasValue_ofMillionths hn
    obtain ⟨-, herror'⟩ := hasValue_ofMillionths hn'
    have hstep : (n : ℚ) + 1 ≤ n' := by exact_mod_cast hlt
    rw [abs_le] at herror herror'
    linarith

end

end FeatureGraph.Number
