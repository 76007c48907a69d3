import FeatureGraph.Proofs.Number.Double
import FeatureGraph.Proofs.Number.Whole

/-! # Numbers by what they are

A double that is no NaN is a rational number or an infinity, and two doubles compare equal if they are the same
number. A whole number equals the double that it is. -/
namespace FeatureGraph.Number
open Float.Model (Format)
open Float.Model.UnpackedFloat

inductive Exact where
  | finite (q : ℚ)
  | infinite (negative : Bool)

def Parts.exactValue? : Parts → Option Exact
  | nan => none
  | infinite negative => some (.infinite negative)
  | finite negative m e => some (.finite (if negative then -(m * 2 ^ e) else m * 2 ^ e))

def exactValue? (x : Float) : Option Exact := (parts x).exactValue?

/-! ## Doubles and their parts -/

def isNegative : Sign → Bool
  | .negative => true
  | .positive => false

def partsOfUnpacked : Float.Model.UnpackedFloat → Parts
  | .notANumber => .nan
  | .infinity s => .infinite (isNegative s)
  | .zero s => .finite (isNegative s) 0 (-1074)
  | .finite s m e _ => .finite (isNegative s) m e

theorem toNat_unpackMantissa (b : BitVec 64) : (@unpackMantissa .binary64 b).toNat = b.toNat % 0x10000000000000 := by
  rw [unpackMantissa, BitVec.toNat_cast, BitVec.extractLsb_toNat]
  rfl

theorem isNegative_unpackSign (b : BitVec 64) :
    isNegative (Sign.ofBitVec (@unpackSign .binary64 b)) = (b.toNat / 0x8000000000000000 == 1) := by
  have hsign : (@unpackSign .binary64 b).toNat = b.toNat / 0x8000000000000000 % 2 := by
    rw [unpackSign, BitVec.toNat_cast, BitVec.extractLsb_toNat, Nat.shiftRight_eq_div_pow]
    rfl
  have hlt := b.isLt
  have hzero : @unpackSign .binary64 b = 0#1 ↔ b.toNat / 0x8000000000000000 = 0 := by
    rw [← BitVec.toNat_inj, hsign]
    change b.toNat / 0x8000000000000000 % 2 = 0 ↔ _
    omega
  unfold Sign.ofBitVec
  split
  · next h => simp [isNegative, hzero.1 h]
  · next h =>
    have hone : b.toNat / 0x8000000000000000 = 1 := by
      have hne := mt hzero.2 h
      omega
    simp [isNegative, hone]

theorem parts_eq_partsOfUnpacked (x : Float) : parts x = partsOfUnpacked x.toModel.unpack := by
  have hunpack : x.toModel.unpack = unpack .binary64 x.toBits.toBitVec := rfl
  have hbias : (Format.binary64.exponentBias + Format.binary64.mantissaBitsWithoutImplicit : Int) = 1075 := rfl
  have hexponent := toNat_unpackExponent x.toBits.toBitVec
  have hmantissa := toNat_unpackMantissa x.toBits.toBitVec
  have hsign := isNegative_unpackSign x.toBits.toBitVec
  have hbits : x.toBits.toBitVec.toNat = x.toBits.toNat := rfl
  rw [hbits] at hexponent hmantissa hsign
  have hones : @unpackExponent .binary64 x.toBits.toBitVec = -1#11 ↔ x.toBits.toNat / 0x10000000000000 % 2048 = 2047 := by
    rw [← BitVec.toNat_inj, hexponent]
    rfl
  have hnone : @unpackExponent .binary64 x.toBits.toBitVec = 0#11 ↔ x.toBits.toNat / 0x10000000000000 % 2048 = 0 := by
    rw [← BitVec.toNat_inj, hexponent]
    rfl
  have hwhole : @unpackMantissa .binary64 x.toBits.toBitVec = 0#52 ↔ x.toBits.toNat % 0x10000000000000 = 0 := by
    rw [← BitVec.toNat_inj, hmantissa]
    rfl
  have himplicit := toNat_append_implicit (@unpackMantissa .binary64 x.toBits.toBitVec)
  rw [hmantissa] at himplicit
  rw [hunpack, parts, partsOfBits, unpack]
  dsimp only
  split
  · next h =>
    rw [if_pos (hones.2 h)]
    split
    · next hfraction => rw [if_pos (hwhole.2 hfraction), partsOfUnpacked, hsign]
    · next hfraction => rw [if_neg (mt hwhole.1 hfraction), partsOfUnpacked]
  · next h =>
    rw [if_neg (mt hones.1 h)]
    split
    · next hsmall =>
      rw [if_pos (hnone.2 hsmall)]
      split
      · next hfraction => rw [partsOfUnpacked, hsign, hwhole.1 hfraction]
      · next hfraction =>
        rw [partsOfUnpacked, hsign, hmantissa, hexponent, hsmall, hbias]
        rfl
    · next hsmall =>
      rw [if_neg (mt hnone.1 hsmall), partsOfUnpacked, hsign, himplicit, hexponent, hbias]
      rfl

/-! ## One form for each number -/

/-- A mantissa of 53 bits, of fewer only at the least exponent. -/
structure IsNormal (m : Nat) (e : Int) : Prop where
  lt : m < 2 ^ 53
  le : -1074 ≤ e
  full : 2 ^ 52 ≤ m ∨ e = -1074

theorem IsNormal.exponent_le {m m' : Nat} {e e' : Int} (h : IsNormal m e) (h' : IsNormal m' e')
    (heq : (m : ℚ) * 2 ^ e = m' * 2 ^ e') : e' ≤ e := by
  by_contra hlt
  have hsum : e' = e + (e' - e).toNat := by omega
  have hm : m = m' * 2 ^ (e' - e).toNat := by
    rw [hsum, zpow_add₀ (by norm_num), zpow_natCast, ← mul_assoc, mul_right_comm] at heq
    exact_mod_cast mul_right_cancel₀ (zpow_ne_zero e (by norm_num)) heq
  have htwo : 2 ^ 1 ≤ 2 ^ (e' - e).toNat := Nat.pow_le_pow_right (by norm_num) (by omega)
  have hfull : 2 ^ 52 ≤ m' := h'.full.resolve_right (by have := h.le; omega)
  have hlarge : 2 ^ 52 * 2 ^ 1 ≤ m := hm ▸ Nat.mul_le_mul hfull htwo
  have hsmall := h.lt
  omega

theorem IsNormal.unique {m m' : Nat} {e e' : Int} (h : IsNormal m e) (h' : IsNormal m' e')
    (heq : (m : ℚ) * 2 ^ e = m' * 2 ^ e') : e = e' ∧ m = m' := by
  have he : e = e' := le_antisymm (h'.exponent_le h heq.symm) (h.exponent_le h' heq)
  subst he
  exact ⟨rfl, by exact_mod_cast mul_right_cancel₀ (zpow_ne_zero e (by norm_num)) heq⟩

def InForm : Float.Model.UnpackedFloat → Prop
  | .finite _ m e _ => IsNormal m e
  | _ => True

theorem inForm_unpack (b : BitVec 64) : InForm (unpack .binary64 b) := by
  have hbias : (Format.binary64.exponentBias + Format.binary64.mantissaBitsWithoutImplicit : Int) = 1075 := rfl
  have hlt : (@unpackMantissa .binary64 b).toNat < 2 ^ 52 := (@unpackMantissa .binary64 b).isLt
  have himplicit : (1#1 ++ @unpackMantissa .binary64 b).toNat = 2 ^ 52 + (@unpackMantissa .binary64 b).toNat :=
    toNat_append_implicit _
  rw [unpack]
  dsimp only
  split
  · split <;> trivial
  · split
    · next hzero =>
      have hexponent : (@unpackExponent .binary64 b).toNat = 0 := by
        rw [hzero]
        rfl
      split
      · trivial
      · rw [hbias, hexponent]
        exact ⟨by omega, by norm_num, .inr (by norm_num)⟩
    · next hnone =>
      have hexponent : (@unpackExponent .binary64 b).toNat ≠ 0 := by
        intro h
        exact hnone (BitVec.eq_of_toNat_eq h)
      rw [hbias]
      exact ⟨by omega, by omega, .inl (by omega)⟩

/-! ## Comparisons -/

/-- Sizes with a sign are the same only if the signs are. -/
theorem signed_inj {a b : ℚ} (ha : 0 < a) (hb : 0 < b) {s t : Sign} :
    (if isNegative s then -a else a) = (if isNegative t then -b else b) ↔ s = t ∧ a = b := by
  cases s <;> cases t <;> simp [isNegative] <;> intro h <;> linarith

theorem exactValue?_zero (s : Sign) : (partsOfUnpacked (.zero s)).exactValue? = some (.finite 0) := by
  simp [partsOfUnpacked, Parts.exactValue?]

theorem compare_eq_some_eq_iff {u v : Float.Model.UnpackedFloat} (hu : InForm u) (hv : InForm v) :
    u.compare v = some .eq ↔
      ∃ a, (partsOfUnpacked u).exactValue? = some a ∧ (partsOfUnpacked v).exactValue? = some a := by
  have hpos {m : Nat} (e : Int) (hm : 0 < m) : 0 < (m : ℚ) * 2 ^ e := by positivity
  cases u with
  | notANumber => cases v <;> simp [Float.Model.UnpackedFloat.compare, partsOfUnpacked, Parts.exactValue?]
  | infinity s =>
    cases v with
    | infinity t =>
      cases s <;> cases t <;> simp [Float.Model.UnpackedFloat.compare, partsOfUnpacked, Parts.exactValue?, isNegative] <;> decide
    | _ => cases s <;> simp [Float.Model.UnpackedFloat.compare, partsOfUnpacked, Parts.exactValue?]
  | zero s =>
    rw [exactValue?_zero]
    cases v with
    | zero t => simp [Float.Model.UnpackedFloat.compare, exactValue?_zero]
    | infinity t => cases t <;> simp [Float.Model.UnpackedFloat.compare, partsOfUnpacked, Parts.exactValue?]
    | finite t m e hm =>
      have hne := (hpos e hm).ne'
      cases t <;> simp [Float.Model.UnpackedFloat.compare, partsOfUnpacked, Parts.exactValue?, isNegative, hne]
    | notANumber => simp [Float.Model.UnpackedFloat.compare, partsOfUnpacked, Parts.exactValue?]
  | finite s m e hm =>
    cases v with
    | finite t m' e' hm' =>
      have hform : (m : ℚ) * 2 ^ e = m' * 2 ^ e' ↔ e = e' ∧ m = m' :=
        ⟨hu.unique hv, by rintro ⟨rfl, rfl⟩; rfl⟩
      have hsigned := signed_inj (hpos e hm) (hpos e' hm') (s := s) (t := t)
      rw [hform] at hsigned
      simp only [partsOfUnpacked, Parts.exactValue?, Option.some.injEq, exists_eq_left', Exact.finite.injEq,
        eq_comm.trans hsigned]
      cases s <;> cases t <;>
        simp [Float.Model.UnpackedFloat.compare, Ordering.then_eq_eq, Ordering.swap_eq_eq]
    | zero t =>
      have hne := (hpos e hm).ne'
      rw [exactValue?_zero]
      cases s <;> simp only [Float.Model.UnpackedFloat.compare, partsOfUnpacked, Parts.exactValue?, isNegative, if_true,
        Bool.false_eq_true, if_false, Option.some.injEq, exists_eq_left', Exact.finite.injEq, reduceCtorEq, false_iff]
      · intro h
        linarith [hpos e hm]
      · exact hne.symm
    | infinity t => cases s <;> cases t <;> simp [Float.Model.UnpackedFloat.compare, partsOfUnpacked, Parts.exactValue?]
    | notANumber => simp [Float.Model.UnpackedFloat.compare, partsOfUnpacked, Parts.exactValue?]

/-- Two doubles compare equal if they are the same number. -/
theorem beq_iff {x y : Float} : (x == y) = true ↔ ∃ a, exactValue? x = some a ∧ exactValue? y = some a := by
  have hcompare : (x == y) = (x.toModel.unpack.compare y.toModel.unpack == some .eq) := rfl
  rw [hcompare, beq_iff_eq, exactValue?, exactValue?, parts_eq_partsOfUnpacked, parts_eq_partsOfUnpacked]
  exact compare_eq_some_eq_iff (inForm_unpack x.toBits.toBitVec) (inForm_unpack y.toBits.toBitVec)

/-- A quotient without a rest is the whole number that it comes to. -/
theorem withSign_div_eq_iff {negative : Bool} {num den : Nat} (hden : 0 < den) {n : Int} :
    (num % den == 0 && withSign negative (num / den) == n) = true ↔
      (if negative then -((num : ℚ) / den) else (num : ℚ) / den) = n := by
  have hden' : (den : ℚ) ≠ 0 := by positivity
  have hsigned (q : ℚ) : (if negative then -(q / den) else q / den) = n ↔ q = (if negative then -n else n) * den := by
    rw [← div_eq_iff hden']
    cases negative <;> simp [neg_eq_iff_eq_neg]
  rw [hsigned, Bool.and_eq_true, beq_iff_eq, beq_iff_eq]
  constructor
  · rintro ⟨hrest, rfl⟩
    obtain ⟨k, rfl⟩ := Nat.dvd_of_mod_eq_zero hrest
    rw [Nat.mul_div_cancel_left k hden]
    cases negative <;> simp [withSign, mul_comm]
  · intro h
    have hsize : (num : ℤ) = (if negative then -n else n) * den := by exact_mod_cast h
    have hnonneg : 0 ≤ (if negative then -n else n) := by
      by_contra hlt
      have hneg := mul_neg_of_neg_of_pos (not_le.1 hlt) (Int.natCast_pos.2 hden)
      omega
    obtain ⟨k, hk⟩ := Int.eq_ofNat_of_zero_le hnonneg
    rw [hk] at hsize
    obtain rfl : num = k * den := by exact_mod_cast hsize
    refine ⟨Nat.mul_mod_left k den, ?_⟩
    rw [Nat.mul_div_cancel k hden, withSign, ← hk]
    cases negative <;> simp

theorem scaled_div (m : Nat) (e : Int) (places : Nat) :
    0 < (scaled m e places).2 ∧ ((scaled m e places).1 : ℚ) / (scaled m e places).2 = m * 2 ^ e * 10 ^ places := by
  unfold scaled
  split
  · next h =>
    obtain ⟨k, rfl⟩ := Int.eq_ofNat_of_zero_le h
    simp
  · next h =>
    obtain ⟨k, rfl⟩ : ∃ k : Nat, e = -(k : Int) := ⟨e.natAbs, by omega⟩
    simp [div_eq_mul_inv, mul_right_comm]

/-- A double equals the whole number that it is. -/
theorem equalsInt_iff {x : Float} {n : Int} : equalsInt x n = true ↔ exactValue? x = some (.finite n) := by
  unfold equalsInt exactValue?
  cases parts x with
  | nan => simp [Parts.exactValue?]
  | infinite negative => simp [Parts.exactValue?]
  | finite negative m e =>
    obtain ⟨hden, hdiv⟩ := scaled_div m e 0
    rw [pow_zero, mul_one] at hdiv
    simp only [Parts.exactValue?, Option.some.injEq, Exact.finite.injEq]
    rw [← hdiv]
    exact withSign_div_eq_iff hden

end FeatureGraph.Number
