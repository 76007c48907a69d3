import Mathlib

/-! # Doubles and their bits

A finite number whose mantissa and exponent have their places is packed into the bits of these, and is read back from
them. -/
namespace FeatureGraph.Number
open Float.Model (Format UnpackedFloat)
open Float.Model.UnpackedFloat

variable {spec : Format}

theorem toNat_append_implicit {w : Nat} (m : BitVec w) : (1#1 ++ m).toNat = 2 ^ w + m.toNat := by
  rw [BitVec.toNat_append, ← Nat.shiftLeft_add_eq_or_of_lt m.isLt]
  simp [Nat.shiftLeft_eq]

/-- The mantissa of a number with an exponent of zero has no implicit bit. -/
theorem pack_subnormal (s : Sign) {m : BitVec spec.mantissaBitsWithoutImplicit} (hm : 0 < m.toNat)
    (hs : 1 < spec.exponentBits) :
    pack spec (.finite s m.toNat (0 - (spec.exponentBias + spec.mantissaBitsWithoutImplicit : Int) + 1) hm) =
      packComponents spec s 0 m := by
  have hlog := (Nat.log2_lt hm.ne').2 m.isLt
  have hexp : (0 - (spec.exponentBias + spec.mantissaBitsWithoutImplicit : Int) + 1 + spec.exponentBias +
      spec.mantissaBitsWithoutImplicit).toNat = 1 := by omega
  have hbits : 2 ^ 1 < 2 ^ spec.exponentBits := Nat.pow_lt_pow_right (by omega) hs
  simp only [pack, hexp]
  rw [if_neg (by omega), if_neg (by unfold Format.mantissaBits; omega), BitVec.ofNat_toNat, BitVec.setWidth_eq]
  rfl

/-- The mantissa of any other finite number has one. -/
theorem pack_normal (s : Sign) {e : BitVec spec.exponentBits} {m : BitVec spec.mantissaBitsWithoutImplicit}
    (he : e.toNat + 1 < 2 ^ spec.exponentBits) (hm : 0 < (1#1 ++ m).toNat) :
    pack spec (.finite s (1#1 ++ m).toNat
      (e.toNat - (spec.exponentBias + spec.mantissaBitsWithoutImplicit : Int)) hm) = packComponents spec s e m := by
  have hlt := m.isLt
  have hexp : (e.toNat - (spec.exponentBias + spec.mantissaBitsWithoutImplicit : Int) + spec.exponentBias +
      spec.mantissaBitsWithoutImplicit).toNat = e.toNat := by omega
  have hlog : (1#1 ++ m).toNat.log2 = spec.mantissaBitsWithoutImplicit := by
    rw [Nat.log2_eq_iff hm.ne', toNat_append_implicit, Nat.pow_succ]
    omega
  have hfrac : BitVec.ofNat spec.mantissaBitsWithoutImplicit (1#1 ++ m).toNat = m := by
    apply BitVec.eq_of_toNat_eq
    rw [toNat_append_implicit, BitVec.toNat_ofNat, Nat.add_mod_left, Nat.mod_eq_of_lt hlt]
  simp only [pack, hexp, hlog, hfrac]
  rw [if_neg (by omega), if_pos (by unfold Format.mantissaBits; omega), BitVec.ofNat_toNat, BitVec.setWidth_eq]

theorem unpack_pack_subnormal (s : Sign) {f : BitVec 52} (hf : 0 < f.toNat) :
    unpack .binary64 (pack .binary64 (.finite s f.toNat (-1074) hf)) = .finite s f.toNat (-1074) hf := by
  have hne : f ≠ 0#52 := by
    rintro rfl
    exact absurd hf (by decide)
  have hpack : pack .binary64 (.finite s f.toNat (-1074) hf) = packComponents .binary64 s 0 f :=
    pack_subnormal s hf (by decide)
  rw [hpack]
  unfold UnpackedFloat.unpack
  dsimp only
  simp only [unpackSign_packComponents, unpackExponent_packComponents, unpackMantissa_packComponents,
    Sign.ofBitVec_toBitVec, dif_neg hne]
  rfl

theorem unpack_pack_normal (s : Sign) {b : BitVec 11} {f : BitVec 52} (hb : b.toNat ≠ 0) (hb' : b.toNat < 2047)
    (hf : 0 < (1#1 ++ f).toNat) :
    unpack .binary64 (pack .binary64 (.finite s (1#1 ++ f).toNat (b.toNat - 1075) hf)) =
      .finite s (1#1 ++ f).toNat (b.toNat - 1075) hf := by
  have hones : b ≠ -1#11 := by
    rintro rfl
    exact absurd hb' (by decide)
  have hzero : b ≠ 0#11 := by
    rintro rfl
    exact hb rfl
  have hbias : (Format.binary64.exponentBias + Format.binary64.mantissaBitsWithoutImplicit : Int) = 1075 := rfl
  have hpack := @pack_normal .binary64 s b f (by show b.toNat + 1 < 2048; omega) hf
  rw [hbias] at hpack
  rw [hpack]
  unfold UnpackedFloat.unpack
  dsimp only
  simp only [unpackSign_packComponents, unpackExponent_packComponents, unpackMantissa_packComponents,
    Sign.ofBitVec_toBitVec, if_neg hones, if_neg hzero]
  rfl

end FeatureGraph.Number
