import FeatureGraph.Proofs.Number.Integer
import FeatureGraph.Proofs.Number.Places
import FeatureGraph.Spatial.Shape

/-! # The numerals of coordinates

A coordinate is rounded to a number of millionths and written without a superfluous character. So the numeral is the
rounded number, and numerals are the same if the rounded numbers are. -/
namespace FeatureGraph

namespace Text

/-! ## What is cut off at the end -/

variable {cs ds set : List Char}

theorem trimEnd_append_of_mem (h : ∀ c ∈ ds, c ∈ set) : trimEnd set (cs ++ ds) = trimEnd set cs := by
  have hdrop : ∀ c ∈ ds.reverse, set.contains c = true := by simpa using h
  rw [trimEnd, trimEnd, List.reverse_append, List.dropWhile_append_of_pos hdrop]

theorem trimEnd_of_getLast? (h : ∀ c ∈ cs.getLast?, c ∉ set) : trimEnd set cs = cs := by
  rw [trimEnd]
  rw [List.getLast?_eq_head?_reverse] at h
  cases hr : cs.reverse with
  | nil => rw [List.reverse_eq_nil_iff.1 hr]; rfl
  | cons c r =>
    rw [List.dropWhile_cons_of_neg (by simpa using h c (by rw [hr]; rfl)), ← hr, List.reverse_reverse]

theorem exists_trimEnd (set cs : List Char) : ∃ ds, cs = trimEnd set cs ++ ds ∧ ∀ c ∈ ds, c ∈ set := by
  refine ⟨(cs.reverse.takeWhile set.contains).reverse, ?_, fun c hc => ?_⟩
  · rw [trimEnd, ← List.reverse_append, List.takeWhile_append_dropWhile, List.reverse_reverse]
  · have hall := List.all_eq_true.1 (List.all_takeWhile (l := cs.reverse) (p := set.contains)) c (List.mem_reverse.1 hc)
    simpa using hall

theorem mem_of_mem_trimEnd {c : Char} (h : c ∈ trimEnd set cs) : c ∈ cs := by
  obtain ⟨ds, hcs, -⟩ := exists_trimEnd set cs
  rw [hcs]
  exact List.mem_append_left ds h

theorem getLast?_trimEnd : ∀ c ∈ (trimEnd set cs).getLast?, c ∉ set := by
  intro c hc
  rw [trimEnd, List.getLast?_reverse] at hc
  have hhead := List.head?_dropWhile_not set.contains cs.reverse
  rw [Option.mem_def.1 hc] at hhead
  simpa using hhead

end Text

namespace Number

/-! ## Digits around a point -/


/-- Digits before and after a point that are a number of units of the last place. -/
structure IsFixed (places units : ℕ) (whole fraction : List Char) : Prop where
  whole_ne : whole ≠ []
  whole_digits : ∀ c ∈ whole, c.isDigit
  leading : whole.head? = some '0' → whole = ['0']
  fraction_digits : ∀ c ∈ fraction, c.isDigit
  length : fraction.length = places
  value : Nat.ofDigitChars 10 (whole ++ fraction) 0 = units

theorem eq_zero_of_head?_decimalDigits {n : ℕ} (h : (decimalDigits n).head? = some '0') : n = 0 := by
  induction n using Nat.strong_induction_on with
  | h n ih =>
    rw [decimalDigits, Nat.toDigits_eq_if (by decide)] at h
    split at h
    · exact Nat.digitChar_eq_zero.1 (Option.some.inj h)
    · rw [List.head?_append_of_ne_nil _ Nat.toDigits_ne_nil] at h
      have htenth := ih (n / 10) (by omega) h
      omega

/-- The digits of some units, with zeros before them if they are not more than the places. -/
def padded (places units : ℕ) : List Char :=
  List.replicate (places + 1 - (decimalDigits units).length) '0' ++ decimalDigits units

section
variable {places units : ℕ}

theorem length_padded : (padded places units).length = max (places + 1) (decimalDigits units).length := by
  rw [padded, List.length_append, List.length_replicate]
  omega

theorem isDigit_of_mem_padded : ∀ c ∈ padded places units, c.isDigit := by
  intro c hc
  rcases List.mem_append.1 hc with hc | hc
  · rw [List.eq_of_mem_replicate hc]
    rfl
  · exact isDigit_of_mem_decimalDigits hc

theorem ofDigitChars_padded : Nat.ofDigitChars 10 (padded places units) 0 = units := by
  rw [padded, Nat.ofDigitChars_append, Nat.ofDigitChars_replicate_zero, Nat.mul_zero]
  exact Nat.ofDigitChars_toDigits (by decide) (by decide)

/-- Where more than one digit stands before the places none is padded, and only zero has digits that begin with a zero. -/
theorem length_padded_of_head?_eq_zero (h : (padded places units).head? = some '0') :
    (padded places units).length = places + 1 := by
  by_contra hlength
  rw [length_padded] at hlength
  have hlong : places + 1 < (decimalDigits units).length := by omega
  have hnone : places + 1 - (decimalDigits units).length = 0 := by omega
  rw [padded, hnone, List.replicate_zero, List.nil_append] at h
  rw [eq_zero_of_head?_decimalDigits h] at hlong
  have hsingle : (decimalDigits 0).length = 1 := rfl
  omega

end

theorem exists_fixedDigits (places units : ℕ) :
    ∃ whole fraction, fixedDigits places units = whole ++ '.' :: fraction ∧ IsFixed places units whole fraction := by
  obtain ⟨count, hcount⟩ : ∃ count, (padded places units).length = count + 1 + places :=
    ⟨max (places + 1) (decimalDigits units).length - 1 - places, by rw [length_padded]; omega⟩
  have hwhole : (padded places units).length - places = count + 1 := by omega
  refine ⟨(padded places units).take (count + 1), (padded places units).drop (count + 1), ?_, ?_, ?_, ?_, ?_, ?_, ?_⟩
  · rw [← hwhole]
    rfl
  · rw [← List.length_pos_iff, List.length_take]
    omega
  · exact fun c hc => isDigit_of_mem_padded c (List.mem_of_mem_take hc)
  · intro hzero
    rw [List.head?_take, if_neg (by omega)] at hzero
    obtain rfl : count = 0 := by
      have hlength := length_padded_of_head?_eq_zero hzero
      omega
    rw [List.take_one, hzero]
    rfl
  · exact fun c hc => isDigit_of_mem_padded c (List.mem_of_mem_drop hc)
  · rw [List.length_drop]
    omega
  · rw [List.take_append_drop]
    exact ofDigitChars_padded

/-! ## Texts of millionths -/

/-- Some places with the point before them; without places there is no point. -/
def pointed : List Char → List Char
  | [] => []
  | c :: cs => '.' :: c :: cs

theorem trimEnd_pointed {cs fraction : List Char} (hcs : ∀ c ∈ cs.getLast?, c ≠ '.') (hfraction : '.' ∉ fraction) :
    Text.trimEnd ['.'] (Text.trimEnd ['0'] (cs ++ '.' :: fraction)) = cs ++ pointed (Text.trimEnd ['0'] fraction) := by
  obtain ⟨zeros, hzeros, hset⟩ := Text.exists_trimEnd ['0'] fraction
  have htrim : Text.trimEnd ['0'] (cs ++ '.' :: fraction) =
      Text.trimEnd ['0'] (cs ++ '.' :: Text.trimEnd ['0'] fraction) := by
    have happend : cs ++ '.' :: fraction = cs ++ '.' :: Text.trimEnd ['0'] fraction ++ zeros := by
      rw [List.append_assoc, List.cons_append, ← hzeros]
    rw [happend, Text.trimEnd_append_of_mem hset]
  rw [htrim]
  cases hplaces : Text.trimEnd ['0'] fraction with
  | nil =>
    -- no digit is left, so that the point goes as well
    have hpoint : Text.trimEnd ['0'] (cs ++ ['.']) = cs ++ ['.'] := Text.trimEnd_of_getLast? (by simp)
    have hlast : ∀ c ∈ cs.getLast?, c ∉ ['.'] := by simpa using hcs
    rw [hpoint, Text.trimEnd_append_of_mem (by simp), Text.trimEnd_of_getLast? hlast]
    exact (List.append_nil cs).symm
  | cons d ds =>
    have hlast : ∀ c ∈ (cs ++ '.' :: d :: ds).getLast?, c ∉ ['0'] ∧ c ∈ fraction := by
      intro c hc
      rw [List.getLast?_append_of_ne_nil _ (by simp), List.getLast?_cons_cons, ← hplaces] at hc
      exact ⟨Text.getLast?_trimEnd c hc, Text.mem_of_mem_trimEnd (List.mem_of_getLast? hc)⟩
    have hzero : Text.trimEnd ['0'] (cs ++ '.' :: d :: ds) = cs ++ '.' :: d :: ds :=
      Text.trimEnd_of_getLast? fun c hc => (hlast c hc).1
    have hpoint : Text.trimEnd ['.'] (cs ++ '.' :: d :: ds) = cs ++ '.' :: d :: ds :=
      Text.trimEnd_of_getLast? fun c hc h => hfraction (List.mem_singleton.1 h ▸ (hlast c hc).2)
    rw [hzero, hpoint]
    rfl

def signText (negative : Bool) : List Char := if negative then ['-'] else []

def millionthsText (negative : Bool) (units : ℕ) : String :=
  let cs := Text.trimEnd ['.'] (Text.trimEnd ['0'] (signText negative ++ fixedDigits 6 units))
  if cs.isEmpty || cs == ['-', '0'] then "0" else String.ofList cs

theorem millionthsText_zero (negative : Bool) : millionthsText negative 0 = "0" := by
  cases negative <;> decide +kernel

namespace IsFixed

variable {places units : ℕ} {whole fraction : List Char} (h : IsFixed places units whole fraction) (negative : Bool)
include h

theorem eq_zero (hzero : ∀ c ∈ whole ++ fraction, c = '0') : units = 0 := by
  rw [← h.value, List.eq_replicate_of_mem hzero, Nat.ofDigitChars_replicate_zero, Nat.mul_zero]

theorem trimEnd_text : Text.trimEnd ['.'] (Text.trimEnd ['0'] (signText negative ++ (whole ++ '.' :: fraction))) =
    signText negative ++ whole ++ pointed (Text.trimEnd ['0'] fraction) := by
  rw [← List.append_assoc]
  apply trimEnd_pointed
  · intro c hc
    rw [List.getLast?_append_of_ne_nil _ h.whole_ne] at hc
    exact ne_of_isDigit (h.whole_digits c (List.mem_of_getLast? hc)) rfl
  · exact fun hmem => ne_of_isDigit (h.fraction_digits _ hmem) rfl rfl

/-- Units other than zero are not written as a zero with a sign. -/
theorem text_ne (hunits : units ≠ 0) :
    signText negative ++ whole ++ pointed (Text.trimEnd ['0'] fraction) ≠ ['-', '0'] := by
  intro heq
  have hmem {c : Char} (hc : c ∈ signText negative ++ whole ++ pointed (Text.trimEnd ['0'] fraction)) :
      c = '-' ∨ c = '0' := by simpa [heq] using hc
  apply hunits
  apply h.eq_zero
  intro c hc
  rcases List.mem_append.1 hc with hc | hc
  · exact (hmem (by simp [hc])).resolve_left (ne_of_isDigit (h.whole_digits c hc) rfl)
  · cases hplaces : Text.trimEnd ['0'] fraction with
    | nil =>
      obtain ⟨zeros, hzeros, hset⟩ := Text.exists_trimEnd ['0'] fraction
      rw [hzeros, hplaces] at hc
      exact List.mem_singleton.1 (hset c hc)
    | cons d ds =>
      rw [hplaces] at hmem
      have hpoint := hmem (c := '.') (by simp [pointed])
      exact absurd hpoint (by decide)

end IsFixed

theorem exists_millionthsText (negative : Bool) {units : ℕ} (h : units ≠ 0) : ∃ whole fraction,
    IsFixed 6 units whole fraction ∧
    (millionthsText negative units).toList = signText negative ++ whole ++ pointed (Text.trimEnd ['0'] fraction) ∧
    (millionthsText negative units).toList ≠ ['-', '0'] := by
  obtain ⟨whole, fraction, hfixed, hparts⟩ := exists_fixedDigits 6 units
  have hempty : signText negative ++ whole ++ pointed (Text.trimEnd ['0'] fraction) ≠ [] := by
    simp [hparts.whole_ne]
  have hsigned := hparts.text_ne negative h
  have htext : millionthsText negative units =
      .ofList (signText negative ++ whole ++ pointed (Text.trimEnd ['0'] fraction)) := by
    have hbranch := Bool.or_eq_false_iff.2 ⟨List.isEmpty_eq_false_iff.2 hempty, beq_eq_false_iff_ne.2 hsigned⟩
    rw [millionthsText, hfixed, hparts.trimEnd_text negative, hbranch]
    rfl
  rw [htext, String.toList_ofList]
  exact ⟨whole, fraction, hparts, rfl, hsigned⟩

/-! ## Canonical numerals -/

/-- A numeral with up to six places and no superfluous character: no zero before other digits, none at the end of the
places, no point without places and no sign of a zero. -/
def IsCanonicalNumeral (cs : List Char) : Prop :=
  ∃ negative whole places, cs = signText negative ++ whole ++ pointed places ∧
    (whole ≠ [] ∧ ∀ c ∈ whole, c.isDigit) ∧ (whole.head? = some '0' → whole = ['0']) ∧
    (places.length ≤ 6 ∧ ∀ c ∈ places, c.isDigit) ∧ places.getLast? ≠ some '0' ∧ cs ≠ ['-', '0']

theorem isCanonicalNumeral_millionthsText (negative : Bool) (units : ℕ) :
    IsCanonicalNumeral (millionthsText negative units).toList := by
  rcases eq_or_ne units 0 with rfl | h
  · rw [millionthsText_zero]
    exact ⟨false, ['0'], [], rfl, ⟨by simp, List.forall_mem_singleton.2 rfl⟩, fun _ => rfl, by simp, by simp, by decide⟩
  · obtain ⟨whole, fraction, hparts, htext, hsigned⟩ := exists_millionthsText negative h
    refine ⟨negative, whole, _, htext, ⟨hparts.whole_ne, hparts.whole_digits⟩, hparts.leading, ⟨?_, ?_⟩, ?_, hsigned⟩
    · obtain ⟨zeros, hzeros, -⟩ := Text.exists_trimEnd ['0'] fraction
      have hlength := hparts.length
      rw [hzeros, List.length_append] at hlength
      omega
    · exact fun c hc => hparts.fraction_digits c (Text.mem_of_mem_trimEnd hc)
    · exact fun hlast => Text.getLast?_trimEnd '0' hlast (List.mem_singleton_self _)

/-! ## Values of numerals -/

/-- The number that a numeral is: all its digits as a whole number, over ten to the number of its places. -/
def numeralValue (cs : List Char) : ℚ :=
  let (negative, body) := signed cs
  let whole := body.takeWhile Char.isDigit
  let places := (body.dropWhile Char.isDigit).drop 1
  let size := (Nat.ofDigitChars 10 (whole ++ places) 0 : ℚ) / 10 ^ places.length
  if negative then -size else size

theorem signed_signText (negative : Bool) {c : Char} (hc : c.isDigit) (cs : List Char) :
    signed (signText negative ++ c :: cs) = (negative, c :: cs) := by
  cases negative with
  | true => rfl
  | false =>
    unfold signed signText
    split
    · next heq => exact absurd (List.cons.inj heq).1 (ne_of_isDigit hc rfl)
    · next heq => exact absurd (List.cons.inj heq).1 (ne_of_isDigit hc rfl)
    · rfl

theorem numeralValue_signText (negative : Bool) {whole places : List Char}
    (hwhole : whole ≠ [] ∧ ∀ c ∈ whole, c.isDigit) :
    numeralValue (signText negative ++ whole ++ pointed places) =
      let size := (Nat.ofDigitChars 10 (whole ++ places) 0 : ℚ) / 10 ^ places.length
      if negative then -size else size := by
  obtain ⟨hne, hdigits⟩ := hwhole
  have hsigned : signed (signText negative ++ whole ++ pointed places) = (negative, whole ++ pointed places) := by
    cases whole with
    | nil => exact absurd rfl hne
    | cons c cs =>
      rw [List.append_assoc]
      exact signed_signText negative (hdigits c List.mem_cons_self) _
  have hstop : (pointed places).takeWhile Char.isDigit = [] ∧
      (pointed places).dropWhile Char.isDigit = pointed places := by
    cases places with
    | nil => exact ⟨rfl, rfl⟩
    | cons d ds => exact ⟨rfl, rfl⟩
  have hplaces : (pointed places).drop 1 = places := by cases places <;> rfl
  have htake : (whole ++ pointed places).takeWhile Char.isDigit = whole := by
    rw [List.takeWhile_append_of_pos hdigits, hstop.1, List.append_nil]
  have hdrop : ((whole ++ pointed places).dropWhile Char.isDigit).drop 1 = places := by
    rw [List.dropWhile_append_of_pos hdigits, hstop.2, hplaces]
  simp only [numeralValue, hsigned, htake, hdrop]

/-- Zeros at the end of the places do not count. -/
theorem ofDigitChars_trimEnd (whole fraction : List Char) :
    (Nat.ofDigitChars 10 (whole ++ Text.trimEnd ['0'] fraction) 0 : ℚ) / 10 ^ (Text.trimEnd ['0'] fraction).length =
      Nat.ofDigitChars 10 (whole ++ fraction) 0 / 10 ^ fraction.length := by
  obtain ⟨zeros, hzeros, hset⟩ := Text.exists_trimEnd ['0'] fraction
  have hsame : zeros = List.replicate zeros.length '0' :=
    List.eq_replicate_of_mem fun c hc => List.mem_singleton.1 (hset c hc)
  conv_rhs => rw [hzeros, List.length_append, ← List.append_assoc, Nat.ofDigitChars_append, hsame,
    Nat.ofDigitChars_replicate_zero, List.length_replicate]
  push_cast
  rw [pow_add, mul_comm (10 ^ zeros.length : ℚ), mul_div_mul_right _ _ (by positivity)]

theorem numeralValue_millionthsText (negative : Bool) (units : ℕ) :
    numeralValue (millionthsText negative units).toList = withSign negative units / 10 ^ 6 := by
  rcases eq_or_ne units 0 with rfl | h
  · rw [millionthsText_zero, show "0".toList = signText false ++ ['0'] ++ pointed [] from rfl,
      numeralValue_signText false ⟨by simp, List.forall_mem_singleton.2 rfl⟩]
    simp [withSign, Nat.ofDigitChars]
  · obtain ⟨whole, fraction, hparts, htext, -⟩ := exists_millionthsText negative h
    rw [htext, numeralValue_signText negative ⟨hparts.whole_ne, hparts.whole_digits⟩]
    dsimp only
    rw [ofDigitChars_trimEnd, hparts.value, hparts.length]
    cases negative <;> simp [withSign, neg_div]

/-! ## Rounding -/

/-- A number is rounded to another one: to a number of millionths, and from halfway between two to the even one. -/
def RoundsTo (v r : ℚ) : Prop := ∃ n : ℤ, r = n / 10 ^ 6 ∧ IsNearest (10 ^ 6 * v) n

theorem roundsTo_iff {v r : ℚ} : RoundsTo v r ↔ r = nearest (10 ^ 6 * v) / 10 ^ 6 := by
  constructor
  · rintro ⟨n, rfl, hn⟩
    rw [isNearest_iff.1 hn]
  · rintro rfl
    exact ⟨_, rfl, isNearest_nearest _⟩

end Number

open Number

theorem coordinateText_of_parts {x : Float} {negative : Bool} {m : Nat} {e : Int} (h : parts x = .finite negative m e) :
    coordinateText x = millionthsText negative (unitsOf 6 m e) := by
  rw [coordinateText, fixedText, h]
  cases negative <;> rfl

theorem exists_coordinateText {x : Float} {v : ℚ} (hx : HasValue x v) : ∃ negative units,
    coordinateText x = millionthsText negative units ∧ withSign negative units = nearest (10 ^ 6 * v) := by
  obtain ⟨negative, m, e, hparts⟩ := exists_parts hx
  exact ⟨negative, unitsOf 6 m e, coordinateText_of_parts hparts, withSign_unitsOf hparts hx 6⟩

theorem isCanonicalNumeral_coordinateText {x : Float} {v : ℚ} (hx : HasValue x v) :
    IsCanonicalNumeral (coordinateText x).toList := by
  obtain ⟨negative, units, htext, -⟩ := exists_coordinateText hx
  rw [htext]
  exact isCanonicalNumeral_millionthsText negative units

/-- The text of a coordinate is the canonical numeral of the rounded coordinate. So the texts are in the order of the
coordinates, and they are the same if the coordinates are rounded to the same. -/
theorem coordinateText_canonical {x y : Float} {v w : ℚ} (hx : HasValue x v) (hy : HasValue y w) :
    IsCanonicalNumeral (coordinateText x).toList ∧ RoundsTo v (numeralValue (coordinateText x).toList) ∧
      (v ≤ w → numeralValue (coordinateText x).toList ≤ numeralValue (coordinateText y).toList) ∧
      (coordinateText x = coordinateText y ↔ ∃ r, RoundsTo v r ∧ RoundsTo w r) := by
  obtain ⟨negative, units, htext, hunits⟩ := exists_coordinateText hx
  obtain ⟨negative', units', htext', hunits'⟩ := exists_coordinateText hy
  have hvalue : numeralValue (coordinateText x).toList = nearest (10 ^ 6 * v) / 10 ^ 6 := by
    rw [htext, numeralValue_millionthsText, hunits]
  have hvalue' : numeralValue (coordinateText y).toList = nearest (10 ^ 6 * w) / 10 ^ 6 := by
    rw [htext', numeralValue_millionthsText, hunits']
  refine ⟨isCanonicalNumeral_coordinateText hx, roundsTo_iff.2 hvalue, ?_, ?_, ?_⟩
  · intro hle
    have hmono : nearest (10 ^ 6 * v) ≤ nearest (10 ^ 6 * w) := nearest_mono (by gcongr)
    rw [hvalue, hvalue']
    gcongr
  · intro hsame
    exact ⟨_, roundsTo_iff.2 hvalue, roundsTo_iff.2 (hsame ▸ hvalue')⟩
  · rintro ⟨r, hr, hr'⟩
    have hnearest : (nearest (10 ^ 6 * v) : ℚ) / 10 ^ 6 = nearest (10 ^ 6 * w) / 10 ^ 6 :=
      (roundsTo_iff.1 hr).symm.trans (roundsTo_iff.1 hr')
    have hsign : withSign negative units = withSign negative' units' := by
      rw [hunits, hunits']
      exact_mod_cast (div_left_inj' (by norm_num)).1 hnearest
    obtain ⟨rfl, rfl | rfl⟩ := withSign_eq_iff.1 hsign
    · rw [htext, htext', millionthsText_zero, millionthsText_zero]
    · rw [htext, htext']

/-- Two halves of a millionth, rounded to the even neighbour: up and down. -/
theorem coordinateText_canonical_halves :
    HasValue (-0.0078125) (-1 / 128) ∧ HasValue 0.0234375 (3 / 128) ∧
      (coordinateText (-0.0078125) = "-0.007812" ∧ RoundsTo (-1 / 128) (numeralValue "-0.007812".toList)) ∧
      numeralValue "-0.007812".toList ≤ numeralValue "0.023438".toList := by
  have hx : HasValue (-0.0078125) (-1 / 128) := by
    have hparts : parts (-0.0078125) = .finite true 4503599627370496 (-59) := by decide +kernel
    convert hasValue_of_parts hparts using 1
    norm_num
  have hy : HasValue 0.0234375 (3 / 128) := by
    have hparts : parts 0.0234375 = .finite false 6755399441055744 (-58) := by decide +kernel
    convert hasValue_of_parts hparts using 1
    norm_num
  have htext : coordinateText (-0.0078125) = "-0.007812" := by decide +kernel
  have htext' : coordinateText 0.0234375 = "0.023438" := by decide +kernel
  obtain ⟨-, hrounds, hmono, -⟩ := coordinateText_canonical hx hy
  rw [htext] at hrounds hmono
  rw [htext'] at hmono
  exact ⟨hx, hy, ⟨htext, hrounds⟩, hmono (by norm_num)⟩

end FeatureGraph
