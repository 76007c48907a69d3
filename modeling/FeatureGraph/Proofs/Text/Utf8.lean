import FeatureGraph.Text.Utf8

/-! # Encoded text reads back -/
namespace FeatureGraph.Text.Utf8

/-- A byte by the number that it holds. -/
theorem toNat_ofNat {k : Nat} (hk : k < 256) : (UInt8.ofNat k).toNat = k := by simp [Nat.mod_eq_of_lt hk]

theorem scan_ofNat {k count bits low high : Nat} (hk : k < 256) (h : lead? k = some ⟨count, bits, low, high⟩)
    (bs : List UInt8) :
    scan (.ofNat k :: bs) = (follow count bits low high bs).1 :: scan (follow count bits low high bs).2 := by
  rw [scan, toNat_ofNat hk, h]

/-- A byte in its range gives six bits. -/
theorem follow_ofNat {n bits low high k : Nat} (hlow : low ≤ k) (hhigh : k ≤ high) (hk : k < 256) (bs : List UInt8) :
    follow (n + 1) bits low high (.ofNat k :: bs) = follow n (bits * 0x40 + (k - 0x80)) 0x80 0xBF bs := by
  simp [follow, toNat_ofNat hk, hlow, hhigh]

theorem lead?_two {n : Nat} (h : 0x80 ≤ n) (hn : n < 0x800) :
    lead? (0xC0 + n / 0x40) = some ⟨1, n / 0x40, 0x80, 0xBF⟩ := by grind [lead?]

/-- The second byte of three keeps longer forms and surrogates out. -/
theorem lead?_three {n : Nat} (h : 0x800 ≤ n) (hn : n < 0x10000) (hs : n < 0xD800 ∨ 0xDFFF < n) :
    ∃ low high, lead? (0xE0 + n / 0x1000) = some ⟨2, n / 0x1000, low, high⟩ ∧
      low ≤ 0x80 + n / 0x40 % 0x40 ∧ 0x80 + n / 0x40 % 0x40 ≤ high := by
  by_cases h0 : n / 0x1000 = 0
  · exact ⟨0xA0, 0xBF, by grind [lead?], by omega, by omega⟩
  · by_cases hd : n / 0x1000 = 0xD
    · exact ⟨0x80, 0x9F, by grind [lead?], by omega, by omega⟩
    · exact ⟨0x80, 0xBF, by grind [lead?], by omega, by omega⟩

/-- The second byte of four keeps longer forms and larger numbers out. -/
theorem lead?_four {n : Nat} (h : 0x10000 ≤ n) (hn : n < 0x110000) :
    ∃ low high, lead? (0xF0 + n / 0x40000) = some ⟨3, n / 0x40000, low, high⟩ ∧
      low ≤ 0x80 + n / 0x1000 % 0x40 ∧ 0x80 + n / 0x1000 % 0x40 ≤ high := by
  by_cases h0 : n / 0x40000 = 0
  · exact ⟨0x90, 0xBF, by grind [lead?], by omega, by omega⟩
  · by_cases h4 : n / 0x40000 = 4
    · exact ⟨0x80, 0x8F, by grind [lead?], by omega, by omega⟩
    · exact ⟨0x80, 0xBF, by grind [lead?], by omega, by omega⟩

theorem scan_encodeChar_append (c : Char) (r : List UInt8) : scan (encodeChar c ++ r) = some c :: scan r := by
  have hvalid : c.toNat < 0xD800 ∨ 0xDFFF < c.toNat ∧ c.toNat < 0x110000 := c.valid
  have hback (k : Nat) (h : k = c.toNat) : Char.ofNat k = c := by rw [h, Char.ofNat_toNat]
  unfold encodeChar
  generalize hn : c.toNat = n at hvalid hback
  dsimp only
  split
  · have hl : lead? n = some ⟨0, n, 0x80, 0xBF⟩ := by grind [lead?]
    simp [scan_ofNat (by omega) hl, follow, hback]
  · split
    · rw [List.cons_append, List.cons_append, List.nil_append, scan_ofNat (by omega) (lead?_two (by omega) (by omega)),
        follow_ofNat (by omega) (by omega) (by omega), follow, hback _ (by omega)]
    · split
      · obtain ⟨low, high, hl, hlow, hhigh⟩ := lead?_three (n := n) (by omega) (by omega) (by omega)
        rw [List.cons_append, List.cons_append, List.cons_append, List.nil_append, scan_ofNat (by omega) hl,
          follow_ofNat hlow hhigh (by omega), follow_ofNat (by omega) (by omega) (by omega), follow, hback _ (by omega)]
      · obtain ⟨low, high, hl, hlow, hhigh⟩ := lead?_four (n := n) (by omega) (by omega)
        rw [List.cons_append, List.cons_append, List.cons_append, List.cons_append, List.nil_append,
          scan_ofNat (by omega) hl, follow_ofNat hlow hhigh (by omega), follow_ofNat (by omega) (by omega) (by omega),
          follow_ofNat (by omega) (by omega) (by omega), follow, hback _ (by omega)]

theorem scan_flatMap_encodeChar (cs : List Char) : scan (cs.flatMap encodeChar) = cs.map some := by
  induction cs with
  | nil => simp [scan]
  | cons c r ih => rw [List.flatMap_cons, scan_encodeChar_append, ih, List.map_cons]

theorem mapM_some (cs : List Char) : (cs.map some).mapM id = some cs := by
  induction cs with
  | nil => rfl
  | cons c r ih => simp [ih]

theorem decode_encode (s : String) : decode (encode s) = some s := by
  rw [decode, encode, scan_flatMap_encodeChar, mapM_some, Option.map_some, String.ofList_toList]

end FeatureGraph.Text.Utf8
