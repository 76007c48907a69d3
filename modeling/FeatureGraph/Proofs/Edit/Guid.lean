import FeatureGraph.Edit.Build
import FeatureGraph.Proofs.Number.Integer
import FeatureGraph.Proofs.Wire.Edits
import Mathlib.Data.List.Basic

/-! # Global ids of a response in an edit

An identifier that a response shows is read back from its text, in whichever letters, and with or without its braces,
hyphens and blanks around it. So a relationship is added between the entities whose identifiers were shown. -/
namespace FeatureGraph.Guid

open Text Number

def braces : List Char := ['\x7b', '\x7d']

/-- A text in another notation: letters may be in lower case, braces and hyphens may be left out. -/
inductive Rewritten : List Char → List Char → Prop where
  | nil : Rewritten [] []
  | same (c : Char) {cs ds : List Char} (h : Rewritten cs ds) : Rewritten (c :: cs) (c :: ds)
  | lower (c : Char) {cs ds : List Char} (h : Rewritten cs ds) : Rewritten (c :: cs) (c.toLower :: ds)
  | without {c : Char} (hc : c = '-' ∨ c ∈ braces) {cs ds : List Char} (h : Rewritten cs ds) : Rewritten (c :: cs) ds

/-- A text that shows what another one does, in a notation of its own and between blanks. -/
def Restates (shown s : String) : Prop :=
  ∃ lead core trail, s.toList = lead ++ core ++ trail ∧ (∀ c ∈ lead, isBlank c) ∧ (∀ c ∈ trail, isBlank c) ∧
    Rewritten shown.toList core

/-! ## Digits of bytes -/

/-- The two characters that a hexadecimal digit is written as. -/
def spellings (n : Nat) : List Char := [Hex.digitUpper n, (Hex.digitUpper n).toLower]

/-- Two digits for each byte. -/
inductive Spells : List UInt8 → List Char → Prop where
  | nil : Spells [] []
  | cons {b : UInt8} {high low : Char} (hhigh : high ∈ spellings (b.toNat / 16)) (hlow : low ∈ spellings (b.toNat % 16))
      {bs : List UInt8} {cs : List Char} (h : Spells bs cs) : Spells (b :: bs) (high :: low :: cs)

/-- A character that is neither blank, nor a mark of a text around an identifier or of a number. -/
def IsPlain (c : Char) : Prop :=
  isBlank c = false ∧ c ∉ braces ∧ c ∉ ['-', '+', '_', ':'] ∧ c.toLower ≠ 'x'

instance (c : Char) : Decidable (IsPlain c) := inferInstanceAs (Decidable (_ ∧ _))

def nibble? (c : Char) : Option Nat := (hexValue c).filter (· < 16)

section
variable {n : Nat} {c : Char} {bs : List UInt8} {cs ds : List Char}

theorem digit_spec (hn : n < 16) (hc : c ∈ spellings n) : nibble? c = some n ∧ IsPlain c := by
  have hall : ∀ n < 16, (spellings n).all fun c => nibble? c = some n ∧ IsPlain c := by decide
  exact of_decide_eq_true (List.all_eq_true.1 (hall n hn) c hc)

theorem Spells.isPlain (h : Spells bs cs) : ∀ c ∈ cs, IsPlain c := by
  induction h with
  | nil => simp
  | @cons b high low hhigh hlow bs cs _ ih =>
    have hb : b.toNat < 256 := b.toNat_lt
    have hhigh' := (digit_spec (by omega) hhigh).2
    have hlow' := (digit_spec (Nat.mod_lt _ (by decide)) hlow).2
    exact List.forall_mem_cons.2 ⟨hhigh', List.forall_mem_cons.2 ⟨hlow', ih⟩⟩

theorem Spells.length (h : Spells bs cs) : cs.length = 2 * bs.length := by
  induction h with
  | nil => rfl
  | cons _ _ _ ih =>
    rw [List.length_cons, List.length_cons, List.length_cons, ih]
    omega

/-! ## The number that bytes are -/

def ofBigEndian (acc : Nat) (bs : List UInt8) : Nat := bs.foldl (fun n b => n * 256 + b.toNat) acc

theorem bigEndian_ofBigEndian (bs : List UInt8) : bigEndian bs.length (ofBigEndian 0 bs) = bs := by
  induction bs using List.reverseRecOn with
  | nil => rfl
  | append_singleton bs b ih =>
    have hb : b.toNat < 256 := b.toNat_lt
    have hvalue : ofBigEndian 0 (bs ++ [b]) = ofBigEndian 0 bs * 256 + b.toNat := by simp [ofBigEndian]
    have hfront : (ofBigEndian 0 bs * 256 + b.toNat) / 256 = ofBigEndian 0 bs := by omega
    have hlast : (ofBigEndian 0 bs * 256 + b.toNat) % 256 = b.toNat := by omega
    rw [List.length_append, List.length_singleton, hvalue, bigEndian, hfront, hlast, ih, UInt8.ofNat_toNat]

theorem Spells.digitsFrom (h : Spells bs cs) (acc : Nat) :
    Number.digitsFrom nibble? 16 acc cs = some (ofBigEndian acc bs) := by
  induction h generalizing acc with
  | nil => rfl
  | @cons b high low hhigh hlow bs cs _ ih =>
    have hb : b.toNat < 256 := b.toNat_lt
    obtain ⟨hvalue, -, -, hmark, -⟩ := digit_spec (by omega) hhigh
    obtain ⟨hvalue', -, -, hmark', -⟩ := digit_spec (Nat.mod_lt _ (by decide)) hlow
    have hbyte : (acc * 16 + b.toNat / 16) * 16 + b.toNat % 16 = acc * 256 + b.toNat := by omega
    rw [digitsFrom_cons_of_ne (by rintro rfl; simp at hmark), hvalue, Option.bind_some,
      digitsFrom_cons_of_ne (by rintro rfl; simp at hmark'), hvalue', Option.bind_some, ih, hbyte]
    rfl

theorem afterMark_of_isPlain (h : ∀ c ∈ cs, IsPlain c) : afterMark 'x' cs = cs := by
  unfold afterMark
  split
  · next m r => exact if_neg (h m (by simp)).2.2.2
  · next m r _ => exact if_neg (h m (by simp)).2.2.2
  · rfl

/-- Bytes are the number that their digits are read as. -/
theorem Spells.hexInteger? (h : Spells bs cs) (hne : bs ≠ []) : hexInteger? cs = some (ofBigEndian 0 bs : Int) := by
  have hplain := h.isPlain
  have hdigits : digits? nibble? 16 cs = some (ofBigEndian 0 bs) := by
    have hall := h.digitsFrom 0
    cases h with
    | nil => exact absurd rfl hne
    | @cons b high low hhigh hlow bs cs _ =>
      have hb : b.toNat < 256 := b.toNat_lt
      obtain ⟨hvalue, -, -, hmark, -⟩ := digit_spec (by omega) hhigh
      rw [digitsFrom_cons_of_ne (by rintro rfl; simp at hmark), hvalue, Option.bind_some, Nat.zero_mul,
        Nat.zero_add] at hall
      rw [digits?, hvalue, Option.bind_some, hall]
  have htrim : trimPadding cs = cs := trimPadding_eq_self fun c hc => (hplain c hc).1
  have hsigned : signed cs = (false, cs) :=
    signed_of_notMem (fun hc => absurd (hplain _ hc) (by decide)) (fun hc => absurd (hplain _ hc) (by decide))
  rw [Number.hexInteger?, radixInteger?, htrim, hsigned]
  dsimp only
  rw [afterMark_of_isPlain hplain]
  change ((digits? nibble? 16 cs).bind fun n => some (n : Int)).map _ = _
  rw [hdigits]
  rfl

end

/-! ## Notations -/

namespace Rewritten

variable {c : Char} {cs cs' ds : List Char} {bs : List UInt8}

theorem refl (cs : List Char) : Rewritten cs cs := by
  induction cs with
  | nil => exact .nil
  | cons c cs ih => exact ih.same c

/-- The shortest notation: nothing but digits, in lower case. -/
theorem bare (cs : List Char) : Rewritten cs ((cs.filter (· ∉ '-' :: braces)).map Char.toLower) := by
  induction cs with
  | nil => exact .nil
  | cons c cs ih =>
    by_cases hc : c ∈ '-' :: braces
    · rw [List.filter_cons_of_neg (by rwa [decide_eq_true_eq, not_not])]
      exact ih.without (List.mem_cons.1 hc)
    · rw [List.filter_cons_of_pos (by simpa using hc), List.map_cons]
      exact ih.lower c

theorem append (h : Rewritten (cs ++ cs') ds) : ∃ es es', ds = es ++ es' ∧ Rewritten cs es ∧ Rewritten cs' es' := by
  induction cs generalizing ds with
  | nil => exact ⟨[], ds, rfl, .nil, h⟩
  | cons c cs ih =>
    cases h with
    | same _ h =>
      obtain ⟨es, es', rfl, hes, hes'⟩ := ih h
      exact ⟨c :: es, es', rfl, .same c hes, hes'⟩
    | lower _ h =>
      obtain ⟨es, es', rfl, hes, hes'⟩ := ih h
      exact ⟨c.toLower :: es, es', rfl, .lower c hes, hes'⟩
    | without hc h =>
      obtain ⟨es, es', rfl, hes, hes'⟩ := ih h
      exact ⟨es, es', rfl, .without hc hes, hes'⟩

/-- What holds of characters in both cases holds of another notation. -/
theorem forall_mem {p : Char → Prop} (h : Rewritten cs ds) (hp : ∀ c ∈ cs, p c ∧ p c.toLower) : ∀ d ∈ ds, p d := by
  induction h with
  | nil => simp
  | same c _ ih =>
    rw [List.forall_mem_cons] at hp ⊢
    exact ⟨hp.1.1, ih hp.2⟩
  | lower c _ ih =>
    rw [List.forall_mem_cons] at hp ⊢
    exact ⟨hp.1.2, ih hp.2⟩
  | without _ _ ih => exact ih (List.forall_mem_cons.1 hp).2

/-- Hyphens do not matter. -/
theorem filter (h : Rewritten cs ds) (hp : ∀ c ∈ cs, c ≠ '-' → c.toLower ≠ '-') :
    Rewritten (cs.filter (· != '-')) (ds.filter (· != '-')) := by
  induction h with
  | nil => exact .nil
  | same c _ ih =>
    have hrest := ih (List.forall_mem_cons.1 hp).2
    by_cases hc : c = '-'
    · simpa [hc] using hrest
    · simpa [hc] using hrest.same c
  | lower c _ ih =>
    obtain ⟨hlower, hp⟩ := List.forall_mem_cons.1 hp
    have hrest := ih hp
    by_cases hc : c = '-'
    · have hhyphen : '-'.toLower = '-' := rfl
      simpa [hc, hhyphen] using hrest
    · simpa [hc, hlower hc] using hrest.lower c
  | @without c hmark _ _ _ ih =>
    have hrest := ih (List.forall_mem_cons.1 hp).2
    by_cases hc : c = '-'
    · simpa [hc] using hrest
    · simpa [hc] using hrest.without hmark

theorem of_digit {n : Nat} (hn : n < 16) (h : Rewritten (Hex.digitUpper n :: cs) ds) :
    ∃ d es, ds = d :: es ∧ d ∈ spellings n ∧ Rewritten cs es := by
  obtain ⟨-, hplain⟩ := digit_spec hn (List.mem_cons_self (l := [_]))
  cases h with
  | same _ h => exact ⟨_, _, rfl, by simp [spellings], h⟩
  | lower _ h => exact ⟨_, _, rfl, by simp [spellings], h⟩
  | without hc _ =>
    rcases hc with hc | hc
    · rw [hc] at hplain
      exact absurd hplain (by decide)
    · exact absurd hc hplain.2.1

theorem spells (h : Rewritten (Hex.ofBytesUpper bs) ds) : Spells bs ds := by
  induction bs generalizing ds with
  | nil =>
    cases h
    exact .nil
  | cons b bs ih =>
    have hb : b.toNat < 256 := b.toNat_lt
    obtain ⟨high, es, rfl, hhigh, h⟩ := of_digit (by omega) h
    obtain ⟨low, es, rfl, hlow, h⟩ := of_digit (Nat.mod_lt _ (by decide)) h
    exact .cons hhigh hlow (ih h)

end Rewritten

/-! ## Texts of identifiers -/

section
variable {c : Char} {bs : List UInt8} {s : String} {cs word : List Char}

theorem forall_mem_ofBytesUpper (bs : List UInt8) : ∀ c ∈ Hex.ofBytesUpper bs, IsPlain c ∧ IsPlain c.toLower := by
  intro c hc
  obtain ⟨b, -, hc⟩ := List.mem_flatMap.1 hc
  have hb : b.toNat < 256 := b.toNat_lt
  have hdigit {n : Nat} (hn : n < 16) : IsPlain (Hex.digitUpper n) ∧ IsPlain (Hex.digitUpper n).toLower :=
    ⟨(digit_spec hn (by simp [spellings])).2, (digit_spec hn (by simp [spellings])).2⟩
  rcases List.mem_cons.1 hc with rfl | hc
  · exact hdigit (by omega)
  · rw [List.mem_singleton.1 hc]
    exact hdigit (Nat.mod_lt _ (by decide))

/-- An identifier is shown by its digits, with hyphens among them, in braces. -/
theorem exists_body (h : bs.length = 16) : ∃ body, (Wire.uuidText bs).toList = ['\x7b'] ++ body ++ ['\x7d'] ∧
    body.filter (· != '-') = Hex.ofBytesUpper bs ∧ ∀ c ∈ body, c = '-' ∨ c ∈ Hex.ofBytesUpper bs := by
  let hex := Hex.ofBytesUpper bs
  let part (start count : Nat) : List Char := (hex.drop start).take count
  have hlength : hex.length = 32 := by rw [(Rewritten.refl hex).spells.length, h]
  have hmem (start count : Nat) : ∀ c ∈ part start count, c ∈ hex := fun c hc =>
    List.mem_of_mem_drop (List.mem_of_mem_take hc)
  have hplain (start count : Nat) : (part start count).filter (· != '-') = part start count := by
    refine List.filter_eq_self.2 fun c hc => bne_iff_ne.2 ?_
    rintro rfl
    exact absurd (forall_mem_ofBytesUpper bs _ (hmem _ _ _ hc)).1 (by decide)
  have hparts : part 0 8 ++ (part 8 4 ++ (part 12 4 ++ (part 16 4 ++ part 20 12))) = hex := by
    have hlast : part 20 12 = hex.drop 20 := List.take_of_length_le (by rw [List.length_drop, hlength])
    have hstep (start count : Nat) : part start count ++ hex.drop (start + count) = hex.drop start := by
      rw [← List.drop_drop]
      exact List.take_append_drop count (hex.drop start)
    rw [hlast, hstep 16 4, hstep 12 4, hstep 8 4, hstep 0 8, List.drop_zero]
  refine ⟨part 0 8 ++ '-' :: part 8 4 ++ '-' :: part 12 4 ++ '-' :: part 16 4 ++ '-' :: part 20 12, ?_, ?_, ?_⟩
  · simp [Wire.uuidText, part, hex]
  · simp only [List.filter_append, List.filter_cons, hplain, bne_self_eq_false, Bool.false_eq_true, if_false,
      List.append_assoc]
    exact hparts
  · intro c hc
    simp only [List.mem_append, List.mem_cons] at hc
    rcases hc with (((hc | rfl | hc) | rfl | hc) | rfl | hc) | rfl | hc
    all_goals first | exact .inl rfl | exact .inr (hmem _ _ _ hc)

/-- A word is not found where one of its characters is missing. -/
theorem removeFrom_of_notMem (hc : c ∈ word) (h : c ∉ cs) : removeFrom word 0 cs = cs := by
  induction cs with
  | nil => rfl
  | cons d cs ih =>
    have hstart : word.isPrefixOf (d :: cs) = false := by
      rw [Bool.eq_false_iff, Ne, List.isPrefixOf_iff_prefix]
      exact fun hstart => h (hstart.mem hc)
    rw [removeFrom, hstart, ih fun hmem => h (List.mem_cons_of_mem d hmem)]
    rfl

/-- A character that may stand between the braces. -/
def IsInner (c : Char) : Prop := isBlank c = false ∧ c ∉ braces ∧ c ≠ ':'

theorem IsPlain.isInner (h : IsPlain c) : IsInner c := ⟨h.1, h.2.1, fun hcolon => h.2.2.1 (by simp [hcolon])⟩

theorem IsPlain.ne_hyphen (h : IsPlain c) : c ≠ '-' := fun hhyphen => h.2.2.1 (by simp [hhyphen])

/-- What is left of the braces, what is between them, and the digits there. -/
theorem exists_parts_of_rewritten (h : bs.length = 16) (hcs : Rewritten (Wire.uuidText bs).toList cs) :
    ∃ front mid back, cs = front ++ mid ++ back ∧ (∀ c ∈ front, c ∈ braces) ∧ (∀ c ∈ mid, IsInner c) ∧
      (∀ c ∈ back, c ∈ braces) ∧ Spells bs (mid.filter (· != '-')) := by
  obtain ⟨body, hshown, hbody, hmem⟩ := exists_body h
  have hhex := forall_mem_ofBytesUpper bs
  have hbrace : ∀ c ∈ braces, c ∈ braces ∧ c.toLower ∈ braces := by simp [braces]
  have hinner : ∀ c ∈ body, IsInner c ∧ IsInner c.toLower := by
    intro c hc
    rcases hmem c hc with rfl | hc
    · have hhyphen : IsInner '-' := ⟨rfl, by simp [braces], by decide⟩
      exact ⟨hhyphen, hhyphen⟩
    · exact ⟨(hhex c hc).1.isInner, (hhex c hc).2.isInner⟩
  have hhyphen : ∀ c ∈ body, c ≠ '-' → c.toLower ≠ '-' := fun c hc hne =>
    (hhex c ((hmem c hc).resolve_left hne)).2.ne_hyphen
  rw [hshown] at hcs
  obtain ⟨outer, back, rfl, houter, hback⟩ := hcs.append
  obtain ⟨front, mid, rfl, hfront, hmid⟩ := houter.append
  have hdigits := hmid.filter hhyphen
  rw [hbody] at hdigits
  exact ⟨front, mid, back, rfl, hfront.forall_mem fun c hc => hbrace c (by simp_all [braces]), hmid.forall_mem hinner,
    hback.forall_mem fun c hc => hbrace c (by simp_all [braces]), hdigits.spells⟩

theorem digits_of_parts {lead front mid back trail : List Char} (hs : s.toList = lead ++ (front ++ mid ++ back) ++ trail)
    (hlead : ∀ c ∈ lead, isBlank c) (htrail : ∀ c ∈ trail, isBlank c) (hfront : ∀ c ∈ front, c ∈ braces)
    (hmid : ∀ c ∈ mid, IsInner c) (hback : ∀ c ∈ back, c ∈ braces) : digits s = mid.filter (· != '-') := by
  have hbrace : ∀ c ∈ braces, isBlank c = false := by
    simp only [braces, List.forall_mem_cons]
    exact ⟨rfl, rfl, nofun⟩
  have hblank : ∀ c ∈ front ++ mid ++ back, isBlank c = false := by
    simp only [List.mem_append]
    rintro c ((hc | hc) | hc)
    · exact hbrace c (hfront c hc)
    · exact (hmid c hc).1
    · exact hbrace c (hback c hc)
  have hnone : ∀ c ∈ mid, braces.contains c = false := fun c hc => by simpa using (hmid c hc).2.1
  have htrim : trim s.toList = front ++ mid ++ back := by rw [hs, trim_padded hlead htrail hblank]
  have hunbraced : trimSet braces (front ++ mid ++ back) = mid :=
    dropWhile_both (by simpa using hfront) (by simpa using hback) hnone
  have hbare : trimSet braces mid = mid := by
    have hnil : ∀ c ∈ ([] : List Char), braces.contains c := nofun
    have hboth := dropWhile_both hnil hnil hnone
    rwa [List.nil_append, List.append_nil] at hboth
  have hcolon : ':' ∉ mid := fun hc => (hmid _ hc).2.2 rfl
  have hdef : digits s = (trimSet braces (removeFrom "uuid:".toList 0 (removeFrom "urn:".toList 0
      (trimSet braces (trim s.toList))))).filter (· != '-') := rfl
  rw [hdef, htrim, hunbraced, removeFrom_of_notMem (c := ':') (by simp) hcolon,
    removeFrom_of_notMem (c := ':') (by simp) hcolon, hbare]

/-- The digits of an identifier are found in every notation of it. -/
theorem spells_digits (h : bs.length = 16) (hs : Restates (Wire.uuidText bs) s) : Spells bs (digits s) := by
  obtain ⟨lead, core, trail, htext, hlead, htrail, hcore⟩ := hs
  obtain ⟨front, mid, back, rfl, hfront, hmid, hback, hspells⟩ := exists_parts_of_rewritten h hcore
  rwa [digits_of_parts htext hlead htrail hfront hmid hback]

/-- An identifier is read from every notation of its text. -/
theorem ofText_of_restates (h : bs.length = 16) (hs : Restates (Wire.uuidText bs) s) : ofText s = .ok bs := by
  have hspells := spells_digits h hs
  have hne : bs ≠ [] := by
    rintro rfl
    cases h
  have hlength : (digits s).length = 32 := by rw [hspells.length, h]
  have hbytes := bigEndian_ofBigEndian bs
  rw [h] at hbytes
  simp only [ofText, hlength, hspells.hexInteger? hne, ne_eq, not_true_eq_false, if_false, Int.toNat_natCast, hbytes]

end

end FeatureGraph.Guid

namespace FeatureGraph.Edit

open Wire

/-- A value that is read again when it is written, and that shows a text. -/
def Shows (v : Any) (s : String) : Prop := Any.read? v.encode = some v ∧ v.value = .ok (.text s)

theorem shows_uuid {bs : List UInt8} (h : bs.length = 16) : Shows (.primitive (.uuid bs)) (uuidText bs) := by
  have hlength : (Any.primitive (.uuid bs)).encode.length = 20 := by
    have hprimitive : (Primitive.uuid bs).encode.length = 18 := by
      rw [Primitive.encode, length_bytesField_of_short (by decide) (by omega), h]
    rw [Any.encode, length_bytesField_of_short (by decide) (by omega), hprimitive]
  have hback : (Any.primitive (.uuid bs)).ReadsBack := Any.WellFormed.readsBack (.primitive trivial)
  refine ⟨(hback (by omega) (rootLevels + 1)).trans (if_pos (show 2 ≤ 101 by decide)), ?_⟩
  rw [Any.value, Primitive.value, if_pos h]

/-- A relationship is added between the entities whose identifiers are shown, in whichever notation the two texts are. The
identifiers that are written show these texts again. -/
theorem addRelationship_of_restated {a b : List UInt8} (ha : a.length = 16) (hb : b.length = 16) {s t : String}
    (hs : Guid.Restates (uuidText a) s) (ht : Guid.Restates (uuidText b) t) (type : String) :
    ∃ origin destination, addRelationship s t type =
        .ok { relationships := [(type, [[("id", .primitive (.sint64 (-1))), ("originGlobalID", origin),
          ("destinationGlobalID", destination)]])] } ∧
      origin = .primitive (.uuid a) ∧ Shows origin (uuidText a) ∧
      destination = .primitive (.uuid b) ∧ Shows destination (uuidText b) := by
  refine ⟨_, _, ?_, rfl, shows_uuid ha, rfl, shows_uuid hb⟩
  rw [addRelationship, Guid.ofText_of_restates ha hs, Guid.ofText_of_restates hb ht]
  rfl

/-- An identifier as it is shown, between blanks of two scripts, and one as bare digits. -/
theorem addRelationship_of_restated_bare :
    let a : List UInt8 := [0, 1, 2, 3, 4, 5, 6, 7, 8, 9, 10, 11, 12, 13, 14, 15]
    let b : List UInt8 := [0, 254, 253, 252, 251, 250, 249, 248, 247, 246, 245, 244, 243, 242, 241, 240]
    let s := "\u3000\x7b00010203-0405-0607-0809-0A0B0C0D0E0F\x7d\n"
    let t := "00fefdfcfbfaf9f8f7f6f5f4f3f2f1f0"
    a.length = 16 ∧ b.length = 16 ∧ Guid.Restates (uuidText a) s ∧ Guid.Restates (uuidText b) t ∧
      ∃ origin destination, addRelationship s t "owns" =
          .ok { relationships := [("owns", [[("id", .primitive (.sint64 (-1))), ("originGlobalID", origin),
            ("destinationGlobalID", destination)]])] } ∧
        origin = .primitive (.uuid a) ∧ Shows origin (uuidText a) ∧
        destination = .primitive (.uuid b) ∧ Shows destination (uuidText b) := by
  intro a b s t
  have hs : Guid.Restates (uuidText a) s :=
    ⟨['\u3000'], (uuidText a).toList, ['\n'], by decide +kernel, List.forall_mem_singleton.2 rfl,
      List.forall_mem_singleton.2 rfl, .refl _⟩
  have hbare : t.toList = ((uuidText b).toList.filter (· ∉ '-' :: Guid.braces)).map Char.toLower := by decide +kernel
  have ht : Guid.Restates (uuidText b) t := ⟨[], _, [], by rw [hbare]; simp, nofun, nofun, .bare _⟩
  exact ⟨rfl, rfl, hs, ht, addRelationship_of_restated rfl rfl hs ht "owns"⟩

end FeatureGraph.Edit
