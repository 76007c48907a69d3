import FeatureGraph.Proofs.Text.Utf8
import FeatureGraph.Url.Percent

/-! # Escaped text in queries

What is escaped holds none of the marks that part a URL, and reads back. So a query is taken apart into the
names and values that it was made of. -/
namespace FeatureGraph.Text

section
variable {separator : Char} {cs : List Char}

theorem splitAt_of_notMem (h : separator ∉ cs) : splitAt separator cs = [cs] := by
  induction cs with
  | nil => rfl
  | cons c cs ih =>
    rw [List.mem_cons, not_or] at h
    simp [splitAt, ih h.2, Ne.symm h.1]

theorem splitAt_append (h : separator ∉ cs) (ds : List Char) :
    splitAt separator (cs ++ separator :: ds) = cs :: splitAt separator ds := by
  induction cs with
  | nil =>
    obtain ⟨part, parts, hds⟩ := List.exists_cons_of_ne_nil (splitAt_ne_nil separator ds)
    simp [splitAt, hds]
  | cons c cs ih =>
    rw [List.mem_cons, not_or] at h
    simp [splitAt, ih h.2, Ne.symm h.1]

theorem splitAt_intercalate {parts : List (List Char)} (hne : parts ≠ [])
    (h : ∀ part ∈ parts, separator ∉ part) : splitAt separator ([separator].intercalate parts) = parts := by
  induction parts with
  | nil => exact absurd rfl hne
  | cons part parts ih =>
    have hpart := h part (by simp)
    cases parts with
    | nil => rw [List.intercalate_singleton, splitAt_of_notMem hpart]
    | cons next parts =>
      rw [List.intercalate_cons_cons, List.append_assoc, List.singleton_append, splitAt_append hpart,
        ih (by simp) fun other hother => h other (by simp [hother])]

end
end FeatureGraph.Text

namespace FeatureGraph.Url

/-- The marks that part a URL, its queries, and a name from its value. -/
def marks : List Char := ['?', '#', '&', '=']

section
variable {blank : Blank} {mark : Char}

theorem notMem_escapeByte (h : mark ∈ marks) (b : UInt8) : mark ∉ escapeByte blank b := by
  have hall : ∀ n < 256, ∀ blank ∈ [Blank.plus, .percent],
      (escapeByte blank (.ofNat n)).all (· ∉ marks) = true := by
    decide +kernel
  have hb := hall b.toNat b.toNat_lt blank (by cases blank <;> simp)
  rw [UInt8.ofNat_toNat] at hb
  exact fun hmem => of_decide_eq_true (List.all_eq_true.1 hb mark hmem) h

theorem notMem_escape (h : mark ∈ marks) (s : String) : mark ∉ escape blank s := by
  intro hmem
  obtain ⟨b, -, hb⟩ := List.mem_flatMap.1 hmem
  exact notMem_escapeByte h b hb

theorem mem_intercalate {c : Char} {sep : List Char} {parts : List (List Char)} (h : c ∈ sep.intercalate parts) :
    c ∈ sep ∨ ∃ part ∈ parts, c ∈ part := by
  induction parts with
  | nil => simp [List.intercalate] at h
  | cons part parts ih =>
    cases parts with
    | nil => exact .inr ⟨part, List.mem_cons_self, by simpa using h⟩
    | cons next parts =>
      rw [List.intercalate_cons_cons, List.append_assoc, List.mem_append, List.mem_append] at h
      rcases h with hpart | hsep | hrest
      · exact .inr ⟨part, List.mem_cons_self, hpart⟩
      · exact .inl hsep
      · exact (ih hrest).imp_right fun ⟨other, hmem, hc⟩ => ⟨other, List.mem_cons_of_mem part hmem, hc⟩

/-- A query has no mark but those that part it. -/
theorem notMem_query (h : mark ∈ marks) (hparting : mark ∉ ['&', '=']) (ps : List (String × String)) :
    mark ∉ query blank ps := by
  intro hmem
  rcases mem_intercalate hmem with hsep | ⟨part, hpart, hmem⟩
  · exact hparting (List.mem_cons.2 (.inl (List.mem_singleton.1 hsep)))
  · obtain ⟨p, -, rfl⟩ := List.mem_map.1 hpart
    rcases List.mem_append.1 hmem with hname | hvalue
    · exact notMem_escape h p.1 hname
    · rcases List.mem_cons.1 hvalue with heq | hvalue
      · exact hparting (by simp [heq])
      · exact notMem_escape h p.2 hvalue

theorem query_concat {ps : List (String × String)} (hps : ps ≠ []) (name value : String) :
    query blank (ps ++ [(name, value)]) = query blank ps ++ '&' :: (escape blank name ++ '=' :: escape blank value) := by
  induction ps with
  | nil => exact absurd rfl hps
  | cons p ps ih =>
    cases ps with
    | nil => simp [query, List.intercalate_cons_cons]
    | cons q ps =>
      have hrest := ih (by simp)
      simp only [query, List.map_cons, List.cons_append, List.intercalate_cons_cons] at hrest ⊢
      rw [hrest]
      simp

/-! ## Reading back -/

def spaced (c : Char) : Char := if c = '+' then ' ' else c

theorem unescape_cons_of_ne {c : Char} (h : c ≠ '%') (r : List Char) :
    unescape (c :: r) = Text.Utf8.encodeChar c ++ unescape r := by
  rw [unescape]
  intro a b r' hc
  exact absurd hc h

theorem unescape_hex {a b : Char} {high low : Nat} (ha : Text.Hex.value? a = some high)
    (hb : Text.Hex.value? b = some low) (r : List Char) :
    unescape ('%' :: a :: b :: r) = .ofNat (16 * high + low) :: unescape r := by
  rw [unescape]
  simp [ha, hb]

theorem hexValue_digitUpper {n : Nat} (h : n < 16) :
    Text.Hex.value? (Text.Hex.digitUpper n) = some n ∧ spaced (Text.Hex.digitUpper n) = Text.Hex.digitUpper n := by
  have hall : ∀ n < 16, Text.Hex.value? (Text.Hex.digitUpper n) = some n ∧
      spaced (Text.Hex.digitUpper n) = Text.Hex.digitUpper n := by decide
  exact hall n h

/-- An unreserved byte stands for itself. -/
theorem unreserved_spec {b : UInt8} (h : isUnreserved b = true) :
    spaced (Char.ofNat b.toNat) ≠ '%' ∧ Text.Utf8.encodeChar (spaced (Char.ofNat b.toNat)) = [b] := by
  have hall : ∀ n < 256, isUnreserved (.ofNat n) = true →
      spaced (Char.ofNat n) ≠ '%' ∧ Text.Utf8.encodeChar (spaced (Char.ofNat n)) = [.ofNat n] := by
    decide +kernel
  have hb := hall b.toNat b.toNat_lt
  rw [UInt8.ofNat_toNat] at hb
  exact hb h

theorem unescape_escapeByte (b : UInt8) (r : List Char) :
    unescape ((escapeByte blank b).map spaced ++ r) = b :: unescape r := by
  unfold escapeByte
  split
  · next h =>
    obtain ⟨hne, hencode⟩ := unreserved_spec h
    rw [List.map_singleton, List.singleton_append, unescape_cons_of_ne hne, hencode]
    rfl
  split
  · next h =>
    rw [h.1]
    exact unescape_cons_of_ne (by decide) r
  · have hhigh : b.toNat / 16 < 16 := by have := b.toNat_lt; omega
    have hlow : b.toNat % 16 < 16 := by omega
    obtain ⟨hhighValue, hhighSpaced⟩ := hexValue_digitUpper hhigh
    obtain ⟨hlowValue, hlowSpaced⟩ := hexValue_digitUpper hlow
    have hbyte : 16 * (b.toNat / 16) + b.toNat % 16 = b.toNat := by omega
    simp only [List.map_cons, List.map_nil, hhighSpaced, hlowSpaced, List.cons_append, List.nil_append]
    rw [show spaced '%' = '%' from rfl, unescape_hex hhighValue hlowValue, hbyte, UInt8.ofNat_toNat]

theorem unescape_escape (bs : List UInt8) :
    unescape ((bs.flatMap (escapeByte blank)).map spaced) = bs := by
  induction bs with
  | nil => rfl
  | cons b bs ih => rw [List.flatMap_cons, List.map_append, unescape_escapeByte, ih]

theorem decode_escape (s : String) : decode (escape blank s) = s := by
  have hbytes : unescape ((escape blank s).map spaced) = Text.Utf8.encode s := unescape_escape _
  have hscan : Text.Utf8.scan (Text.Utf8.encode s) = s.toList.map some := Text.Utf8.scan_flatMap_encodeChar s.toList
  change Text.Utf8.decodeLossy (unescape ((escape blank s).map spaced)) = s
  rw [hbytes, Text.Utf8.decodeLossy, hscan]
  simp [Function.comp_def]

end

/-! ## Taking a query apart -/

section
variable {blank : Blank}

theorem pair_escape (name value : String) : pair (escape blank name ++ '=' :: escape blank value) = (name, value) := by
  have hname : ∀ c ∈ escape blank name, decide (c ≠ '=') = true := by
    intro c hc
    have hne : c ≠ '=' := by
      rintro rfl
      exact notMem_escape (by decide) name hc
    exact decide_eq_true hne
  rw [pair, List.takeWhile_append_of_pos hname, List.dropWhile_append_of_pos hname]
  simp [decode_escape]

theorem splitAt_query {ps : List (String × String)} (hps : ps ≠ []) :
    Text.splitAt '&' (query blank ps) = ps.map fun p => escape blank p.1 ++ '=' :: escape blank p.2 := by
  refine Text.splitAt_intercalate (by simpa using hps) fun part hpart => ?_
  obtain ⟨p, -, rfl⟩ := List.mem_map.1 hpart
  have hname : '&' ∉ escape blank p.1 := notMem_escape (by decide) p.1
  have hvalue : '&' ∉ escape blank p.2 := notMem_escape (by decide) p.2
  simp [hname, hvalue]

/-- A query holds the names and values that it was made of. -/
theorem pairs_query (blank : Blank) (ps : List (String × String)) : pairs (query blank ps) = ps := by
  cases ps with
  | nil => rfl
  | cons p ps =>
    have hfull : ∀ part ∈ (p :: ps).map fun p => escape blank p.1 ++ '=' :: escape blank p.2, !part.isEmpty := by
      intro part hpart
      obtain ⟨q, -, rfl⟩ := List.mem_map.1 hpart
      simp
    rw [pairs, splitAt_query (by simp), List.filter_eq_self.2 hfull, List.map_map]
    simp [Function.comp_def, pair_escape]

end
end FeatureGraph.Url
