import FeatureGraph.Proofs.Number.Order

/-! # How far a rounded quotient is off

A number in its form is packed without loss, and rounding to a mantissa of 53 bits moves a number by one in 2 ^ 52 of its
size at most. A whole number of 53 bits is not moved. -/
namespace FeatureGraph.Number
open Float.Model (Format UnpackedFloat totalExponent)
open Float.Model.UnpackedFloat

variable {m n : Nat} {e : Int}

/-! ## Packing -/

/-- A number in its form comes back from its bits. -/
theorem IsNormal.unpack_pack (h : IsNormal m e) (he : e ≤ 971) (s : Sign) (hm : 0 < m) :
    unpack .binary64 (pack .binary64 (.finite s m e hm)) = .finite s m e hm := by
  have hlt := h.lt
  have hle := h.le
  by_cases hfull : 2 ^ 52 ≤ m
  · obtain ⟨f, rfl⟩ : ∃ f : BitVec 52, (1#1 ++ f).toNat = m := by
      refine ⟨.ofNat 52 (m - 2 ^ 52), ?_⟩
      rw [toNat_append_implicit, BitVec.toNat_ofNat, Nat.mod_eq_of_lt (by omega)]
      omega
    obtain ⟨b, hb, hb', rfl⟩ : ∃ b : BitVec 11, b.toNat ≠ 0 ∧ b.toNat < 2047 ∧ (b.toNat : Int) - 1075 = e := by
      have hexponent : (BitVec.ofNat 11 (e + 1075).toNat).toNat = (e + 1075).toNat := by
        rw [BitVec.toNat_ofNat, Nat.mod_eq_of_lt (by omega)]
      exact ⟨.ofNat 11 (e + 1075).toNat, by omega, by omega, by omega⟩
    exact unpack_pack_normal s hb hb' hm
  · obtain rfl : e = -1074 := h.full.resolve_left hfull
    obtain ⟨f, rfl⟩ : ∃ f : BitVec 52, f.toNat = m :=
      ⟨.ofNat 52 m, by rw [BitVec.toNat_ofNat, Nat.mod_eq_of_lt (by omega)]⟩
    exact unpack_pack_subnormal s hm

/-! ## Rounding -/

theorem roundedMantissa_ge (em : ExtendedMantissa) : em.mantissa ≤ em.roundedMantissa := by
  unfold ExtendedMantissa.roundedMantissa Accuracy.roundToNearestEven
  split <;> omega

theorem mantissa_shiftRight (em : ExtendedMantissa) (k : Nat) : (em >>> k).mantissa = em.mantissa / 2 ^ k := by
  induction k with
  | zero => exact (Nat.div_one _).symm
  | succ k ih =>
    have hhalf : (em >>> (k + 1)).mantissa = (em >>> k).mantissa / 2 := rfl
    rw [hhalf, ih, Nat.div_div_eq_div_mul, Nat.pow_succ]

theorem targetExponent_eq (t : Int) : Format.binary64.targetExponent t = max (t - 53) (-1074) := rfl

section
variable {k r : Nat} {s : Sign} {accuracy : Accuracy}

/-- The mantissa is shifted to 53 bits. -/
theorem shiftToTargetExponent_eq (hlog : m.log2 = 52 + k) (he : -1074 ≤ e) :
    shiftToTargetExponent .binary64 m e accuracy =
      (ExtendedMantissa.ofMantissaAndAccuracy m accuracy >>> k, e + k) := by
  have hshift : (Format.binary64.targetExponent (totalExponent m e) - e).toNat = k := by
    rw [targetExponent_eq, totalExponent, hlog]
    omega
  unfold shiftToTargetExponent shiftToExponent
  dsimp only
  rw [hshift]

variable (hlog : m.log2 = 52 + k) (he : -1074 ≤ e)
  (hr : (ExtendedMantissa.ofMantissaAndAccuracy m accuracy >>> k).roundedMantissa = r)
include hlog he hr

theorem roundWithAccuracy_of_lt (hlow : 2 ^ 52 ≤ r) (hhigh : r < 2 ^ 53) (hpos : 0 < r) :
    roundWithAccuracy .binary64 s m e accuracy = .finite s r (e + k) hpos := by
  have hlog' : r.log2 = 52 + 0 := (Nat.log2_eq_iff hpos.ne').2 ⟨hlow, hhigh⟩
  have hself : (ExtendedMantissa.ofMantissaAndAccuracy r .exact >>> 0).mantissa = r := rfl
  have hexponent : e + k + (0 : Nat) = e + k := Int.add_zero _
  unfold UnpackedFloat.roundWithAccuracy
  rw [shiftToTargetExponent_eq hlog he]
  dsimp only
  rw [hr, shiftToTargetExponent_eq hlog' (by omega)]
  dsimp only
  rw [dif_neg (by rw [hself]; exact hpos.ne')]
  simp only [hself, hexponent]

/-- A mantissa that was rounded up to 54 bits is shifted once more. -/
theorem roundWithAccuracy_of_eq (hhigh : r = 2 ^ 53) :
    roundWithAccuracy .binary64 s m e accuracy = .finite s (2 ^ 52) (e + k + 1) (by decide) := by
  subst hhigh
  have hlog' : (2 ^ 53).log2 = 52 + 1 := Nat.log2_two_pow
  unfold UnpackedFloat.roundWithAccuracy
  rw [shiftToTargetExponent_eq hlog he]
  dsimp only
  rw [hr, shiftToTargetExponent_eq hlog' (by omega)]
  rfl

end

/-- Of a quantity between two multiples of a unit, either multiple is off by a unit at most. -/
theorem abs_mul_sub_le {r f u x : ℚ} (hu : 0 < u) (hf : 2 ^ 52 ≤ f) (hr₁ : f ≤ r) (hr₂ : r ≤ f + 1)
    (hlow : f * u ≤ x) (hhigh : x ≤ (f + 1) * u) : |r * u - x| ≤ x / 2 ^ 52 := by
  have hunit : u ≤ x / 2 ^ 52 := by
    rw [le_div_iff₀' (by positivity)]
    exact (mul_le_mul_of_nonneg_right hf hu.le).trans hlow
  have hr₁' : f * u ≤ r * u := mul_le_mul_of_nonneg_right hr₁ hu.le
  have hr₂' : r * u ≤ (f + 1) * u := mul_le_mul_of_nonneg_right hr₂ hu.le
  rw [add_one_mul] at hhigh hr₂'
  rw [abs_le]
  constructor <;> linarith

/-- A number with 53 bits or more, and less than one more, is rounded to a number in its form that is off by one in
2 ^ 52 at most. -/
theorem exists_roundWithAccuracy {x : ℚ} (hm : 2 ^ 52 ≤ m) (he : -1074 ≤ e) (s : Sign) (accuracy : Accuracy)
    (hlow : (m : ℚ) * 2 ^ e ≤ x) (hhigh : x ≤ (m + 1) * 2 ^ e) :
    ∃ (m' : Nat) (e' : Int) (hm' : 0 < m'), roundWithAccuracy .binary64 s m e accuracy = .finite s m' e' hm' ∧
      IsNormal m' e' ∧ e' ≤ totalExponent m e - 52 ∧ |(m' : ℚ) * 2 ^ e' - x| ≤ x / 2 ^ 52 := by
  obtain ⟨k, hk⟩ : ∃ k, m.log2 = 52 + k := Nat.exists_eq_add_of_le ((Nat.le_log2 (by omega)).2 hm)
  generalize hr : (ExtendedMantissa.ofMantissaAndAccuracy m accuracy >>> k).roundedMantissa = r
  have hfloor : m / 2 ^ k ≤ r ∧ r ≤ m / 2 ^ k + 1 := by
    have hmantissa : (ExtendedMantissa.ofMantissaAndAccuracy m accuracy >>> k).mantissa = m / 2 ^ k := by
      rw [mantissa_shiftRight]
      unfold ExtendedMantissa.ofMantissaAndAccuracy
      split <;> rfl
    rw [← hr, ← hmantissa]
    exact ⟨roundedMantissa_ge _, roundedMantissa_le _⟩
  have htotal : totalExponent m e - 52 = e + k + 1 := by
    rw [totalExponent, hk]
    omega
  obtain ⟨hlog, hlog'⟩ := (Nat.log2_eq_iff (by omega)).1 hk
  have hfull : 2 ^ 52 ≤ m / 2 ^ k := by rwa [Nat.le_div_iff_mul_le (by positivity), ← Nat.pow_add]
  have hfit : m / 2 ^ k < 2 ^ 53 := by
    rw [Nat.div_lt_iff_lt_mul (by positivity), ← Nat.pow_add]
    rwa [Nat.add_right_comm] at hlog'
  have herror : |(r : ℚ) * 2 ^ (e + k) - x| ≤ x / 2 ^ 52 := by
    have hunit : (0 : ℚ) < 2 ^ (e + k) := by positivity
    have hsplit : (2 : ℚ) ^ (e + k) = 2 ^ k * 2 ^ e := by rw [add_comm, zpow_add₀ (by norm_num), zpow_natCast]
    have hbelow : ((m / 2 ^ k : ℕ) : ℚ) * 2 ^ (e + k) ≤ x := by
      have hmul : ((m / 2 ^ k : ℕ) : ℚ) * 2 ^ k ≤ m := by exact_mod_cast Nat.div_mul_le_self m (2 ^ k)
      rw [hsplit, ← mul_assoc]
      exact (mul_le_mul_of_nonneg_right hmul (by positivity)).trans hlow
    have habove : x ≤ ((m / 2 ^ k : ℕ) + 1) * 2 ^ (e + k) := by
      have hmul : (m : ℚ) + 1 ≤ ((m / 2 ^ k : ℕ) + 1) * 2 ^ k := by
        rw [add_one_mul]
        exact_mod_cast Nat.lt_div_mul_add (Nat.two_pow_pos k)
      rw [hsplit, ← mul_assoc]
      exact hhigh.trans (mul_le_mul_of_nonneg_right hmul (by positivity))
    have hr₁ : ((m / 2 ^ k : ℕ) : ℚ) ≤ r := by exact_mod_cast hfloor.1
    have hr₂ : (r : ℚ) ≤ (m / 2 ^ k : ℕ) + 1 := by exact_mod_cast hfloor.2
    exact abs_mul_sub_le hunit (by exact_mod_cast hfull) hr₁ hr₂ hbelow habove
  rcases Nat.lt_or_ge r (2 ^ 53) with hlt | hge
  · exact ⟨r, e + k, by omega, roundWithAccuracy_of_lt hk he hr (by omega) hlt (by omega),
      ⟨hlt, by omega, .inl (by omega)⟩, by omega, herror⟩
  · obtain rfl : r = 2 ^ 53 := by omega
    have hvalue : ((2 ^ 52 : ℕ) : ℚ) * 2 ^ (e + k + 1) = (2 ^ 53 : ℕ) * 2 ^ (e + k) := by
      rw [zpow_add_one₀ (by norm_num)]
      push_cast
      ring
    exact ⟨2 ^ 52, e + k + 1, by decide, roundWithAccuracy_of_eq hk he hr rfl, ⟨by decide, by omega, .inl le_rfl⟩,
      by omega, by rwa [hvalue]⟩

/-! ## Whole numbers -/

def fullMantissa (n : Nat) : Nat := n <<< (52 - n.log2)

section
variable (hn : 0 < n) (hlt : n < 2 ^ 53)
include hn hlt

theorem log2_fullMantissa : (fullMantissa n).log2 = 52 := by
  have hlog := (Nat.log2_lt hn.ne').2 hlt
  rw [fullMantissa, log2_shiftLeft hn.ne']
  omega

theorem fullMantissa_bounds : 2 ^ 52 ≤ fullMantissa n ∧ fullMantissa n < 2 ^ 53 := by
  refine (Nat.log2_eq_iff ?_).1 (log2_fullMantissa hn hlt)
  rw [fullMantissa, Nat.shiftLeft_eq]
  positivity

theorem fullMantissa_mul : (fullMantissa n : ℚ) * 2 ^ ((n.log2 : Int) - 52) = n := by
  have hlog := (Nat.log2_lt hn.ne').2 hlt
  have hexponent : (n.log2 : Int) - 52 = -((52 - n.log2 : ℕ) : Int) := by omega
  rw [fullMantissa, Nat.shiftLeft_eq, hexponent, zpow_neg, zpow_natCast]
  push_cast
  field_simp

/-- A whole number of 53 bits is a double. -/
theorem unpack_toFloat (hpos : 0 < fullMantissa n) :
    n.toUInt64.toFloat.toModel.unpack = .finite .positive (fullMantissa n) (n.log2 - 52) hpos := by
  have hlog := (Nat.log2_lt hn.ne').2 hlt
  obtain ⟨hlow, hhigh⟩ := fullMantissa_bounds hn hlt
  have hbits : n.toUInt64.toNat = n := UInt64.toNat_ofNat_of_lt' (Nat.lt_trans hlt (by decide))
  have hmodel : n.toUInt64.toFloat.toModel.unpack =
      unpack .binary64 (pack .binary64 (ofInt .binary64 n.toUInt64.toNat)) := rfl
  have htarget : Format.binary64.targetExponent (totalExponent n 0) = n.log2 - 52 := by
    rw [targetExponent_eq, totalExponent]
    omega
  have hshift : (0 - ((n.log2 : Int) - 52)).toNat = 52 - n.log2 := by omega
  have hexponent : (0 : Int) - (52 - n.log2 : ℕ) = n.log2 - 52 := by omega
  have hround : ofInt .binary64 n = .finite .positive (fullMantissa n) (n.log2 - 52) hpos := by
    have hself : (ExtendedMantissa.ofMantissaAndAccuracy (fullMantissa n) .exact >>> 0).roundedMantissa =
      fullMantissa n := rfl
    unfold UnpackedFloat.ofInt UnpackedFloat.normalize
    rw [Int.compare_eq_gt.2 (by omega)]
    show UnpackedFloat.round .binary64 .positive n 0 = _
    unfold UnpackedFloat.round decreaseExponent
    dsimp only
    rw [htarget, hshift, hexponent, ← fullMantissa,
      roundWithAccuracy_of_lt (log2_fullMantissa hn hlt) (by omega) hself hlow hhigh hpos]
    simp only [Int.natCast_zero, Int.add_zero]
  rw [hmodel, hbits, hround]
  exact IsNormal.unpack_pack ⟨hhigh, by omega, .inl hlow⟩ (by omega) _ _

end

/-! ## Quotients -/

section
variable {m₁ m₂ : Nat} {e₁ e₂ : Int}

theorem div_finite (s₁ s₂ : Sign) (hm₁ : 0 < m₁) (hm₂ : 0 < m₂) :
    UnpackedFloat.div .binary64 (.finite s₁ m₁ e₁ hm₁) (.finite s₂ m₂ e₂ hm₂) =
      roundWithAccuracy .binary64 (s₁ / s₂) (divCore .binary64 m₁ e₁ m₂ e₂).1 (divCore .binary64 m₁ e₁ m₂ e₂).2.1
        (divCore .binary64 m₁ e₁ m₂ e₂).2.2 := rfl

variable (hlog₁ : m₁.log2 = 52) (hlog₂ : m₂.log2 = 52)
include hlog₁ hlog₂

/-- The dividend is shifted by 53 bits, so that the quotient has as many. -/
theorem divCore_eq (hlow : -1021 ≤ e₁ - e₂) :
    divCore .binary64 m₁ e₁ m₂ e₂ = (m₁ <<< 53 / m₂, e₁ - e₂ - 53, accuracyOfFraction (m₁ <<< 53 % m₂) m₂) := by
  have htarget : min (e₁ - e₂) (Format.binary64.targetExponent (totalExponent m₁ e₁ - totalExponent m₂ e₂)) =
      e₁ - e₂ - 53 := by
    rw [targetExponent_eq, totalExponent, totalExponent, hlog₁, hlog₂]
    omega
  have hshift : (e₁ - e₂ - (e₁ - e₂ - 53)).toNat = 53 := by omega
  unfold divCore
  dsimp only
  rw [htarget, hshift]

theorem shiftLeft_div_bounds : 2 ^ 52 ≤ m₁ <<< 53 / m₂ ∧ m₁ <<< 53 / m₂ < 2 ^ 54 := by
  have hm₁ : m₁ ≠ 0 := by rintro rfl; cases hlog₁
  have hm₂ : m₂ ≠ 0 := by rintro rfl; cases hlog₂
  obtain ⟨hfull₁, hfit₁⟩ := (Nat.log2_eq_iff hm₁).1 hlog₁
  obtain ⟨hfull₂, hfit₂⟩ := (Nat.log2_eq_iff hm₂).1 hlog₂
  rw [Nat.le_div_iff_mul_le (by omega), Nat.div_lt_iff_lt_mul (by omega), Nat.shiftLeft_eq]
  omega

/-- A quotient of two numbers of 53 bits is off by one in 2 ^ 52 at most, unless it is too large or too small for a
double. -/
theorem exists_hasValue_div {x y : Float} {hm₁ : 0 < m₁} {hm₂ : 0 < m₂}
    (hx : x.toModel.unpack = .finite .positive m₁ e₁ hm₁) (hy : y.toModel.unpack = .finite .positive m₂ e₂ hm₂)
    (hlow : -1021 ≤ e₁ - e₂) (hhigh : e₁ - e₂ ≤ 1000) {a : ℚ}
    (ha : a = (m₁ : ℚ) * 2 ^ e₁ / ((m₂ : ℚ) * 2 ^ e₂)) :
    ∃ q, HasValue (x / y) q ∧ |q - a| ≤ a / 2 ^ 52 := by
  have hquotient : a = ((m₁ <<< 53 : ℕ) : ℚ) / m₂ * 2 ^ (e₁ - e₂ - 53) := by
    have hshift : (2 : ℚ) ^ (e₁ - e₂) = 2 ^ 53 * 2 ^ (e₁ - e₂ - 53) := by
      rw [← zpow_natCast, ← zpow_add₀ (by norm_num)]
      congr 1
      omega
    rw [ha, mul_div_mul_comm, ← zpow_sub₀ (by norm_num), hshift, Nat.shiftLeft_eq]
    push_cast
    ring
  obtain ⟨hfull, hfit⟩ := shiftLeft_div_bounds hlog₁ hlog₂
  have hbelow : ((m₁ <<< 53 / m₂ : ℕ) : ℚ) * 2 ^ (e₁ - e₂ - 53) ≤ a := by
    rw [hquotient]
    exact mul_le_mul_of_nonneg_right Nat.cast_div_le (by positivity)
  have habove : a ≤ ((m₁ <<< 53 / m₂ : ℕ) + 1) * 2 ^ (e₁ - e₂ - 53) := by
    have hfloor := Nat.lt_floor_add_one (((m₁ <<< 53 : ℕ) : ℚ) / m₂)
    rw [Nat.floor_div_eq_div] at hfloor
    rw [hquotient]
    exact mul_le_mul_of_nonneg_right hfloor.le (by positivity)
  obtain ⟨m, e, hm, hround, hnormal, he, herror⟩ := exists_roundWithAccuracy hfull
    (show -1074 ≤ e₁ - e₂ - 53 by omega) .positive (accuracyOfFraction (m₁ <<< 53 % m₂) m₂) hbelow habove
  have hexponent : e ≤ 971 := by
    have hlog := log2_le_of_lt_two_pow hfit
    unfold totalExponent at he
    omega
  have hunpack : (x / y).toModel.unpack = .finite .positive m e hm := by
    have hmodel : (x / y).toModel.unpack =
        unpack .binary64 (pack .binary64 (UnpackedFloat.div .binary64 x.toModel.unpack y.toModel.unpack)) := rfl
    have hsign : Sign.positive / Sign.positive = Sign.positive := rfl
    rw [hmodel, hx, hy, div_finite, divCore_eq hlog₁ hlog₂ hlow, hsign, hround]
    exact hnormal.unpack_pack hexponent _ _
  refine ⟨m * 2 ^ e, ?_, herror⟩
  rw [HasValue, exactValue?, parts_eq_partsOfUnpacked, hunpack]
  rfl

end

end FeatureGraph.Number
