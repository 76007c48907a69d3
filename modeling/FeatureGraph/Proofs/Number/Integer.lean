import FeatureGraph.Number.Integer
import Mathlib.Algebra.Group.Nat.Defs

/-! # Reading the decimal text of a number

The text of a natural number holds digits only, and the number is read from it again unless it has too many digits. What
is read has no more digits than that, and blanks around it do not matter. -/
namespace FeatureGraph.Number

variable {c : Char}

theorem toNat_bounds_of_isDigit (h : c.isDigit = true) : 48 ≤ c.toNat ∧ c.toNat ≤ 57 := by
  rw [Char.isDigit, Bool.and_eq_true, decide_eq_true_eq, decide_eq_true_eq] at h
  exact h

theorem digitValue_of_isDigit (h : c.isDigit = true) : Text.digitValue c = some (c.toNat - 48) := by
  obtain ⟨hlow, hhigh⟩ := toNat_bounds_of_isDigit h
  -- the first block of digits is the one of ASCII
  rw [Text.digitValue, Text.digitZeros, List.find?_cons_of_pos (by simp; omega)]
  rfl

theorem isDigitLike_of_isDigit (h : c.isDigit = true) : Text.isDigitLike c = true :=
  Text.isDigitLike_of_isDecimal (by rw [Text.isDecimal, digitValue_of_isDigit h]; rfl)

theorem not_isBlank_of_isDigit (h : c.isDigit = true) : Text.isBlank c = false := by
  obtain ⟨hlow, hhigh⟩ := toNat_bounds_of_isDigit h
  simp [Text.isBlank]
  omega

theorem ne_of_isDigit {mark : Char} (hc : c.isDigit) (hmark : mark.isDigit = false) : c ≠ mark := by
  rintro rfl
  rw [hc] at hmark
  cases hmark

theorem isDigit_of_mem_decimalDigits {n : Nat} (h : c ∈ decimalDigits n) : c.isDigit = true :=
  Nat.isDigit_of_mem_toDigits (by decide) (by decide) h

theorem digitsFrom_cons_of_ne {value : Char → Option Nat} {radix : Nat} (h : c ≠ '_') (acc : Nat) (cs : List Char) :
    digitsFrom value radix acc (c :: cs) = (value c).bind fun d => digitsFrom value radix (acc * radix + d) cs := by
  rw [digitsFrom]
  intro _ _ hunderscore
  exact absurd hunderscore h

theorem signed_of_notMem {cs : List Char} (hminus : '-' ∉ cs) (hplus : '+' ∉ cs) : signed cs = (false, cs) := by
  unfold signed
  split
  · exact absurd List.mem_cons_self hminus
  · exact absurd List.mem_cons_self hplus
  · rfl

/-- No underscore has to be left out. -/
theorem filter_of_notMem {cs : List Char} (h : '_' ∉ cs) : cs.filter (· != '_') = cs := by
  refine List.filter_eq_self.2 fun c hc => bne_iff_ne.2 ?_
  rintro rfl
  exact h hc

theorem digitsFrom_of_isDigit {cs : List Char} (h : ∀ c ∈ cs, c.isDigit = true) (acc : Nat) :
    digitsFrom Text.digitValue 10 acc cs = some (Nat.ofDigitChars 10 cs acc) := by
  induction cs generalizing acc with
  | nil => rfl
  | cons c cs ih =>
    obtain ⟨hc, hcs⟩ := List.forall_mem_cons.1 h
    have hplain : c ≠ '_' := by rintro rfl; cases hc
    rw [digitsFrom_cons_of_ne hplain, digitValue_of_isDigit hc, Option.bind_some, ih hcs, Nat.ofDigitChars_cons,
      Nat.mul_comm]
    rfl

theorem digits?_decimalDigits (n : Nat) : digits? Text.digitValue 10 (decimalDigits n) = some n := by
  have hdigits : ∀ c ∈ decimalDigits n, c.isDigit = true := fun c hc => isDigit_of_mem_decimalDigits hc
  have hvalue : Nat.ofDigitChars 10 (decimalDigits n) 0 = n := Nat.ofDigitChars_toDigits (by decide) (by decide)
  cases h : decimalDigits n with
  | nil => exact absurd h Nat.toDigits_ne_nil
  | cons c cs =>
    rw [h] at hdigits hvalue
    obtain ⟨hc, hcs⟩ := List.forall_mem_cons.1 hdigits
    rw [digits?, digitValue_of_isDigit hc, Option.bind_some, digitsFrom_of_isDigit hcs, ← hvalue, Nat.ofDigitChars_cons,
      Nat.mul_zero, Nat.zero_add]
    rfl

theorem integer?_decimalDigits (n : Nat) :
    integer? (decimalDigits n) = if WithinLimit n then some (n : Int) else none := by
  have hdigits : ∀ c ∈ decimalDigits n, c.isDigit = true := fun c hc => isDigit_of_mem_decimalDigits hc
  have hnone {mark : Char} (hmark : mark.isDigit = false) : mark ∉ decimalDigits n := fun hmem =>
    ne_of_isDigit (hdigits mark hmem) hmark rfl
  have hsigned : signed (decimalDigits n) = (false, decimalDigits n) := signed_of_notMem (hnone rfl) (hnone rfl)
  have hplain : (decimalDigits n).filter (· != '_') = decimalDigits n := filter_of_notMem (hnone rfl)
  rw [integer?, Text.trimPadding_eq_self fun c hc => not_isBlank_of_isDigit (hdigits c hc), hsigned]
  simp only [hplain, digits?_decimalDigits]
  by_cases h : WithinLimit n
  · have hshort : ¬digitLimit < (decimalDigits n).length := Nat.not_lt.2 h
    rw [if_pos h, if_neg hshort]
    rfl
  · have hlong : digitLimit < (decimalDigits n).length := Nat.lt_of_not_le h
    rw [if_neg h, if_pos hlong]

theorem withinLimit_iff {n : Int} : WithinLimit n ↔ n.natAbs < 10 ^ digitLimit :=
  Nat.length_toDigits_le_iff (by decide) (by decide)

theorem toList_integerText_of_nonneg {n : Int} (h : 0 ≤ n) : (integerText n).toList = decimalDigits n.toNat := by
  rw [integerText, if_neg (Int.not_lt.2 h), String.toList_ofList]
  congr 1
  omega

theorem toList_integerText_of_neg {n : Int} (h : n < 0) : (integerText n).toList = '-' :: decimalDigits n.natAbs := by
  rw [integerText, if_pos h, String.toList_ofList]

/-! ## What is read -/

section Reading
variable {cs : List Char} {acc n : Nat} {i : Int}

theorem not_isBlank_of_digitValue {d : Nat} (h : Text.digitValue c = some d) : Text.isBlank c = false := by
  obtain ⟨z, hz, -⟩ := Option.map_eq_some_iff.1 h
  have hbounds := List.find?_some hz
  have hmem := List.mem_of_find?_eq_some hz
  -- no block of digits meets one of the blanks
  have hzeros : ∀ z ∈ Text.digitZeros, ∀ k < 10, Text.isBlank (Char.ofNat (z + k)) = false := by decide +kernel
  simp only [Bool.and_eq_true, decide_eq_true_eq] at hbounds
  have hc := hzeros z hmem (c.toNat - z) (by omega)
  rwa [Nat.add_sub_cancel' hbounds.1, Char.ofNat_toNat] at hc

/-- Text is that of digits: it has no blank, and its number is bounded by how many they are. -/
def Digital (acc : Nat) (cs : List Char) (n : Nat) : Prop :=
  (∀ c ∈ cs, Text.isBlank c = false) ∧ n < (acc + 1) * 10 ^ (cs.filter (· != '_')).length

theorem Digital.cons {d : Nat} (hd : Text.digitValue c = some d) (h : Digital (acc * 10 + d) cs n) :
    Digital acc (c :: cs) n := by
  have hplain : (c != '_') = true := by
    rw [bne_iff_ne]
    rintro rfl
    cases hd
  have hlt := Text.digitValue_lt hd
  refine ⟨List.forall_mem_cons.2 ⟨not_isBlank_of_digitValue hd, h.1⟩, Nat.lt_of_lt_of_le h.2 ?_⟩
  rw [List.filter_cons, if_pos hplain, List.length_cons, Nat.pow_succ', ← Nat.mul_assoc]
  exact Nat.mul_le_mul_right _ (by omega)

theorem digital_of_digitsFrom (h : digitsFrom Text.digitValue 10 acc cs = some n) : Digital acc cs n := by
  induction acc, cs using digitsFrom.induct 10 generalizing n with
  | case1 acc =>
    obtain rfl : acc = n := by simpa [digitsFrom] using h
    simp [Digital]
  | case2 acc c r ih =>
    obtain ⟨d, hd, h⟩ := Option.bind_eq_some_iff.1 h
    obtain ⟨hblank, hlt⟩ := Digital.cons hd (ih d h)
    exact ⟨List.forall_mem_cons.2 ⟨by decide, hblank⟩, hlt⟩
  | case3 acc c r hne ih =>
    have hstep : digitsFrom Text.digitValue 10 acc (c :: r) =
        (Text.digitValue c).bind fun d => digitsFrom Text.digitValue 10 (acc * 10 + d) r := by
      rw [digitsFrom]
      exact hne
    obtain ⟨d, hd, h⟩ := Option.bind_eq_some_iff.1 (hstep ▸ h)
    exact Digital.cons hd (ih d h)

theorem digital_of_digits? (h : digits? Text.digitValue 10 cs = some n) : Digital 0 cs n := by
  cases cs with
  | nil => cases h
  | cons c cs =>
    obtain ⟨d, hd, h⟩ := Option.bind_eq_some_iff.1 h
    exact Digital.cons hd (by simpa using digital_of_digitsFrom h)

theorem eq_append_signed (cs : List Char) :
    ∃ sign, (∀ c ∈ sign, Text.isBlank c = false) ∧ cs = sign ++ (signed cs).2 := by
  unfold signed
  split
  · exact ⟨['-'], List.forall_mem_singleton.2 (by decide), rfl⟩
  · exact ⟨['+'], List.forall_mem_singleton.2 (by decide), rfl⟩
  · exact ⟨[], by simp, rfl⟩

/-- The parts of a number that is read. -/
theorem exists_digits_of_integer? (h : integer? cs = some i) :
    ∃ n, digits? Text.digitValue 10 (signed (Text.trimPadding cs)).2 = some n ∧ i.natAbs = n ∧
      ((signed (Text.trimPadding cs)).2.filter (· != '_')).length ≤ digitLimit := by
  simp only [integer?] at h
  split at h
  · cases h
  · next hlimit =>
    obtain ⟨n, hn, hi⟩ := Option.map_eq_some_iff.1 h
    obtain ⟨m, hm, hn⟩ := Option.bind_eq_some_iff.1 hn
    obtain rfl : (m : Int) = n := Option.some.inj hn
    refine ⟨m, hm, ?_, Nat.le_of_not_lt hlimit⟩
    split at hi <;> omega

theorem withinLimit_of_integer? (h : integer? cs = some i) : WithinLimit i := by
  obtain ⟨n, hn, rfl, hlimit⟩ := exists_digits_of_integer? h
  have hlt := (digital_of_digits? hn).2
  rw [Nat.zero_add, Nat.one_mul] at hlt
  exact withinLimit_iff.2 (Nat.lt_of_lt_of_le hlt (Nat.pow_le_pow_right (by decide) hlimit))

/-- Blanks around a number may be dropped before it is read. -/
theorem integer?_trim (h : integer? cs = some i) : integer? (Text.trim cs) = some i := by
  obtain ⟨n, hn, -, -⟩ := exists_digits_of_integer? h
  obtain ⟨sign, hsign, hbody⟩ := eq_append_signed (Text.trimPadding cs)
  have hblank : ∀ c ∈ Text.trimPadding cs, Text.isBlank c = false := by
    rw [hbody]
    exact List.forall_mem_append.2 ⟨hsign, (digital_of_digits? hn).1⟩
  obtain ⟨lead, trail, hcs, hlead, htrail⟩ := Text.exists_eq_append_dropWhile Text.isPadding cs
  have hpadding {c : Char} (hc : Text.isPadding c = true) : Text.isBlank c = true := (Bool.and_eq_true_iff.1 hc).1
  have htrim : Text.trim cs = Text.trimPadding cs :=
    (congrArg Text.trim hcs).trans
      (Text.trim_padded (fun c hc => hpadding (hlead c hc)) (fun c hc => hpadding (htrail c hc)) hblank)
  rw [htrim, ← h, integer?, integer?, Text.trimPadding_eq_self hblank]

/-- The text of a number is read as that number. -/
theorem integer?_integerText (h : WithinLimit i) : integer? (Text.trim (integerText i).toList) = some i := by
  have hdigits : ∀ c ∈ decimalDigits i.natAbs, c.isDigit = true := fun c hc => isDigit_of_mem_decimalDigits hc
  have hblank : ∀ c ∈ decimalDigits i.natAbs, Text.isBlank c = false := fun c hc =>
    not_isBlank_of_isDigit (hdigits c hc)
  have htrim {cs : List Char} (hcs : ∀ c ∈ cs, Text.isBlank c = false) : Text.trim cs = cs := by
    have hpadded : Text.trim ([] ++ cs ++ []) = cs := Text.trim_padded nofun nofun hcs
    simpa using hpadded
  rcases Int.lt_or_le i 0 with hneg | hnonneg
  · have hminus : ∀ c ∈ '-' :: decimalDigits i.natAbs, Text.isBlank c = false :=
      List.forall_mem_cons.2 ⟨by decide, hblank⟩
    have hplain : (decimalDigits i.natAbs).filter (· != '_') = decimalDigits i.natAbs :=
      filter_of_notMem fun hmem => by cases hdigits _ hmem
    have hshort : ¬digitLimit < (decimalDigits i.natAbs).length := Nat.not_lt.2 h
    rw [toList_integerText_of_neg hneg, htrim hminus, integer?, Text.trimPadding_eq_self hminus]
    simp only [signed, hplain, if_neg hshort, digits?_decimalDigits]
    have hvalue : -(i.natAbs : Int) = i := by omega
    exact congrArg some hvalue
  · rw [toList_integerText_of_nonneg hnonneg, show i.toNat = i.natAbs by omega, htrim hblank, integer?_decimalDigits,
      Int.natAbs_of_nonneg hnonneg, if_pos h]

/-! ## Texts that look like digits -/

theorem not_isBlank_of_isDigitLike (h : Text.isDigitLike c = true) : Text.isBlank c = false := by
  rw [Text.isDigitLike, Bool.or_eq_true] at h
  rcases h with h | h
  · obtain ⟨d, hd⟩ := Option.isSome_iff_exists.1 h
    exact not_isBlank_of_digitValue hd
  · obtain ⟨r, hr, hlow, hhigh⟩ := Text.inRanges_iff.1 h
    have hranges : ∀ r ∈ Text.otherDigitRanges, ∀ k < r.2 + 1 - r.1, Text.isBlank (Char.ofNat (r.1 + k)) = false := by
      decide +kernel
    have hc := hranges r hr (c.toNat - r.1) (by omega)
    rwa [Nat.add_sub_cancel' hlow, Char.ofNat_toNat] at hc

theorem digitsFrom_isSome_iff (h : '_' ∉ cs) :
    (digitsFrom Text.digitValue 10 acc cs).isSome ↔ ∀ c ∈ cs, Text.isDecimal c := by
  induction cs generalizing acc with
  | nil => simp [digitsFrom]
  | cons c cs ih =>
    rw [List.mem_cons, not_or] at h
    rw [digitsFrom_cons_of_ne (Ne.symm h.1), List.forall_mem_cons, Text.isDecimal]
    cases Text.digitValue c with
    | none => simp
    | some d => simpa using ih h.2

theorem digits?_isSome_iff (h : '_' ∉ cs) :
    (digits? Text.digitValue 10 cs).isSome ↔ cs ≠ [] ∧ ∀ c ∈ cs, Text.isDecimal c := by
  cases cs with
  | nil => simp [digits?]
  | cons c cs =>
    rw [List.mem_cons, not_or] at h
    rw [digits?, List.forall_mem_cons, Text.isDecimal]
    cases Text.digitValue c with
    | none => simp
    | some d => simpa using digitsFrom_isSome_iff h.2

theorem exists_values_of_digitsFrom (h : '_' ∉ cs) (hn : digitsFrom Text.digitValue 10 acc cs = some n) :
    ∃ ds : List Nat, cs.map Text.digitValue = ds.map some ∧ n = ds.foldl (fun n d => 10 * n + d) acc := by
  induction cs generalizing acc with
  | nil => exact ⟨[], rfl, (Option.some.inj hn).symm⟩
  | cons c cs ih =>
    rw [List.mem_cons, not_or] at h
    rw [digitsFrom_cons_of_ne (Ne.symm h.1)] at hn
    obtain ⟨d, hd, hn⟩ := Option.bind_eq_some_iff.1 hn
    obtain ⟨ds, hds, hvalue⟩ := ih h.2 hn
    rw [Nat.mul_comm acc 10] at hvalue
    exact ⟨d :: ds, by rw [List.map_cons, List.map_cons, hd, hds], hvalue⟩

section
variable (h : ∀ c ∈ cs, Text.isDigitLike c)
include h

theorem notMem_of_isDigitLike {mark : Char} (hmark : Text.isDigitLike mark = false) : mark ∉ cs := by
  intro hmem
  rw [h mark hmem] at hmark
  cases hmark

/-- A text that looks like digits has no sign and no underscore, nor blanks around it. -/
theorem integer?_of_isDigitLike : integer? cs =
    if digitLimit < cs.length then none else (digits? Text.digitValue 10 cs).map fun n : Nat => (n : Int) := by
  have hnone {mark : Char} (hmark : Text.isDigitLike mark = false) : mark ∉ cs := notMem_of_isDigitLike h hmark
  have hsigned : signed cs = (false, cs) := signed_of_notMem (hnone (by decide)) (hnone (by decide))
  have hplain : cs.filter (· != '_') = cs := filter_of_notMem (hnone (by decide))
  rw [integer?, Text.trimPadding_eq_self fun c hc => not_isBlank_of_isDigitLike (h c hc), hsigned]
  simp only [hplain]
  cases digits? Text.digitValue 10 cs <;> rfl

/-- A number is read of it if they are decimal digits, and not too many. -/
theorem integer?_isSome_iff :
    (integer? cs).isSome ↔ cs ≠ [] ∧ (∀ c ∈ cs, Text.isDecimal c) ∧ cs.length ≤ digitLimit := by
  have hdigits := digits?_isSome_iff (notMem_of_isDigitLike h (by decide))
  rw [integer?_of_isDigitLike h]
  by_cases hlong : digitLimit < cs.length
  · rw [if_pos hlong]
    simp [Nat.not_le.2 hlong]
  · rw [if_neg hlong, ← and_assoc, ← hdigits]
    cases digits? Text.digitValue 10 cs <;> simp [Nat.not_lt.1 hlong]

/-- The number that is read is the one of the digits. -/
theorem exists_values_of_integer? (hi : integer? cs = some i) :
    ∃ ds : List Nat, cs.map Text.digitValue = ds.map some ∧ i = (ds.foldl (fun n d => 10 * n + d) 0 : Nat) := by
  rw [integer?_of_isDigitLike h] at hi
  split at hi
  · cases hi
  · obtain ⟨n, hn, rfl⟩ := Option.map_eq_some_iff.1 hi
    have hunderscore : '_' ∉ cs := notMem_of_isDigitLike h (by decide)
    cases cs with
    | nil => cases hn
    | cons c cs =>
      have hfrom : digitsFrom Text.digitValue 10 0 (c :: cs) = some n := by
        rw [List.mem_cons, not_or] at hunderscore
        rw [digitsFrom_cons_of_ne (Ne.symm hunderscore.1)]
        simpa [digits?] using hn
      obtain ⟨ds, hds, hvalue⟩ := exists_values_of_digitsFrom hunderscore hfrom
      exact ⟨ds, hds, congrArg Nat.cast hvalue⟩

end

end Reading
end FeatureGraph.Number
