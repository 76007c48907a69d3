import FeatureGraph.Proofs.Result
import FeatureGraph.Proofs.Spatial.Numeral
import FeatureGraph.Spatial.Filter

/-! # The literals of a spatial predicate

A coordinate that is a rational number is written as a plain numeral, with no exponent and no more than six places. One
that is none is written too, as the word for it. -/
namespace FeatureGraph
open Number

/-! ## Numerals -/

/-- Digits, perhaps with a minus sign before them and with a point and up to six digits after them. -/
def IsPlainNumeral (cs : List Char) : Prop :=
  ∃ sign whole fraction, cs = sign ++ whole ++ fraction ∧ (sign = [] ∨ sign = ['-']) ∧
    (whole ≠ [] ∧ ∀ c ∈ whole, c.isDigit) ∧
    (fraction = [] ∨ ∃ places, fraction = '.' :: places ∧ places ≠ [] ∧ places.length ≤ 6 ∧ ∀ c ∈ places, c.isDigit)

/-- A double that is a rational number: no NaN and no infinity. -/
def IsRational (x : Float) : Prop := ∃ q, exactValue? x = some (.finite q)

section
variable {cs : List Char} {x : Float}

theorem isPlainNumeral_of_canonical (h : IsCanonicalNumeral cs) : IsPlainNumeral cs := by
  obtain ⟨negative, whole, places, rfl, hwhole, -, ⟨hlength, hplaces⟩, -, -⟩ := h
  refine ⟨signText negative, whole, pointed places, rfl, ?_, hwhole, ?_⟩
  · cases negative with
    | false => exact .inl rfl
    | true => exact .inr rfl
  · cases places with
    | nil => exact .inl rfl
    | cons c cs => exact .inr ⟨c :: cs, rfl, by simp, hlength, hplaces⟩

theorem isPlainNumeral_coordinateText (h : IsRational x) : IsPlainNumeral (coordinateText x).toList := by
  obtain ⟨q, hq⟩ := h
  exact isPlainNumeral_of_canonical (isCanonicalNumeral_coordinateText hq)

/-- What is written for a double that is no rational number. -/
theorem coordinateText_of_not_isRational (h : ¬IsRational x) : coordinateText x ∈ ["nan", "inf", "-inf"] := by
  unfold IsRational exactValue? at h
  unfold coordinateText fixedText
  cases hx : parts x with
  | nan => decide
  | infinite negative => cases negative <;> decide
  | finite negative m e =>
    rw [hx] at h
    exact absurd ⟨_, rfl⟩ h

theorem IsPlainNumeral.mem (h : IsPlainNumeral cs) : ∀ c ∈ cs, c.isDigit ∨ c = '-' ∨ c = '.' := by
  obtain ⟨sign, whole, fraction, rfl, hsign, hwhole, hfraction⟩ := h
  intro c hc
  rcases List.mem_append.1 hc with hc | hc
  · rcases List.mem_append.1 hc with hc | hc
    · rcases hsign with rfl | rfl
      · cases hc
      · exact .inr (.inl (List.mem_singleton.1 hc))
    · exact .inl (hwhole.2 c hc)
  · rcases hfraction with rfl | ⟨places, rfl, -, -, hplaces⟩
    · cases hc
    · rcases List.mem_cons.1 hc with rfl | hc
      · exact .inr (.inr rfl)
      · exact .inl (hplaces c hc)

theorem isPlainNumeral_coordinateText_iff : IsPlainNumeral (coordinateText x).toList ↔ IsRational x := by
  refine ⟨fun hplain => ?_, isPlainNumeral_coordinateText⟩
  by_contra h
  have hletter : ∀ s ∈ ["nan", "inf", "-inf"], 'n' ∈ s.toList := by decide
  have hn := hplain.mem 'n' (hletter _ (coordinateText_of_not_isRational h))
  revert hn
  decide

end

/-! ## Words of a literal -/

def separators : List Char := ['(', ')', ',', ' ']

def words (cs : List Char) : List (List Char) := (cs.splitOnP separators.contains).filter (!·.isEmpty)

/-- The numerals of a literal: all its words but the first, which says what it is. -/
def numerals (literal : String) : List (List Char) := (words literal.toList).tail

section
variable {w cs : List Char} {c : Char} {x : Float}

@[simp] theorem words_nil : words [] = [] := by simp [words]

theorem words_separator (hc : c ∈ separators) : words (c :: cs) = words cs := by
  have hsplit : (c :: cs).splitOnP separators.contains = [] :: cs.splitOnP separators.contains :=
    List.splitOnP_append_cons_of_forall_mem (List.forall_mem_nil _) c (by simpa using hc) cs
  rw [words, hsplit]
  rfl

theorem words_append (hw : w ≠ []) (hnone : ∀ d ∈ w, d ∉ separators) (hc : c ∈ separators) :
    words (w ++ c :: cs) = w :: words cs := by
  have hsplit : (w ++ c :: cs).splitOnP separators.contains = w :: cs.splitOnP separators.contains :=
    List.splitOnP_append_cons_of_forall_mem (by simpa using hnone) c (by simpa using hc) cs
  rw [words, hsplit, List.filter_cons_of_pos (by simpa using hw)]
  rfl

/-- A coordinate is a word. -/
theorem coordinateText_word (x : Float) : (coordinateText x).toList ≠ [] ∧ ∀ c ∈ (coordinateText x).toList, c ∉ separators := by
  by_cases h : IsRational x
  · have hplain := isPlainNumeral_coordinateText h
    constructor
    · obtain ⟨sign, whole, fraction, heq, -, hwhole, -⟩ := hplain
      intro hnil
      rw [hnil] at heq
      simp [hwhole.1] at heq
    · intro c hc hseparator
      have hmem := hplain.mem c hc
      revert hmem
      simp only [separators, List.mem_cons, List.not_mem_nil, or_false] at hseparator
      rcases hseparator with rfl | rfl | rfl | rfl <;> decide
  · have hwords : ∀ s ∈ ["nan", "inf", "-inf"], s.toList ≠ [] ∧ ∀ c ∈ s.toList, c ∉ separators := by
      simp [separators]
    exact hwords _ (coordinateText_of_not_isRational h)

theorem words_coordinateText (hc : c ∈ separators) :
    words ((coordinateText x).toList ++ c :: cs) = (coordinateText x).toList :: words cs :=
  words_append (coordinateText_word x).1 (coordinateText_word x).2 hc

end

/-! ## Literals -/

namespace Shape

def coordinates {α : Type} : Shape α → List α
  | point x y => [x, y]
  | envelope e => [e.xmin, e.ymin, e.xmax, e.ymax]

/-- The numbers of a literal in their order: a ring ends where it begins. -/
def written {α : Type} : Shape α → List α
  | point x y => [x, y]
  | envelope e => [e.xmin, e.ymin, e.xmax, e.ymin, e.xmax, e.ymax, e.xmin, e.ymax, e.xmin, e.ymin]

theorem mem_written {α : Type} {s : Shape α} {x : α} : x ∈ s.written ↔ x ∈ s.coordinates := by
  cases s with
  | point => rfl
  | envelope e =>
    simp only [written, coordinates, List.mem_cons, List.not_mem_nil, or_false]
    tauto

theorem numerals_wkt (s : Shape Float) : numerals s.wkt = s.written.map fun x => (coordinateText x).toList := by
  have hopen : '(' ∈ separators := by decide
  have hclose : ')' ∈ separators := by decide
  have hcomma : ',' ∈ separators := by decide
  have hblank : ' ' ∈ separators := by decide
  cases s with
  | point x y =>
    have hwkt : (point x y).wkt = "POINT(" ++ coordinateText x ++ " " ++ coordinateText y ++ ")" := rfl
    have htext : (point x y).wkt.toList = "POINT".toList ++ '(' ::
        ((coordinateText x).toList ++ ' ' :: ((coordinateText y).toList ++ [')'])) := by
      simp [hwkt]
    rw [numerals, htext, words_append (by simp) (by simp [separators]) hopen, words_coordinateText hblank,
      words_coordinateText hclose, words_nil]
    rfl
  | envelope e =>
    have hwkt : (envelope e).wkt = "POLYGON((" ++ coordinateText e.xmin ++ " " ++ coordinateText e.ymin ++ ", " ++
        coordinateText e.xmax ++ " " ++ coordinateText e.ymin ++ ", " ++ coordinateText e.xmax ++ " " ++
        coordinateText e.ymax ++ ", " ++ coordinateText e.xmin ++ " " ++ coordinateText e.ymax ++ ", " ++
        coordinateText e.xmin ++ " " ++ coordinateText e.ymin ++ "))" := rfl
    have htext : (envelope e).wkt.toList = "POLYGON".toList ++ '(' :: '(' ::
        ((coordinateText e.xmin).toList ++ ' ' :: ((coordinateText e.ymin).toList ++ ',' :: ' ' ::
        ((coordinateText e.xmax).toList ++ ' ' :: ((coordinateText e.ymin).toList ++ ',' :: ' ' ::
        ((coordinateText e.xmax).toList ++ ' ' :: ((coordinateText e.ymax).toList ++ ',' :: ' ' ::
        ((coordinateText e.xmin).toList ++ ' ' :: ((coordinateText e.ymax).toList ++ ',' :: ' ' ::
        ((coordinateText e.xmin).toList ++ ' ' :: ((coordinateText e.ymin).toList ++ ')' :: [')'])))))))))) := by
      simp [hwkt]
    rw [numerals, htext, words_append (by simp) (by simp [separators]) hopen, words_separator hopen]
    simp only [words_coordinateText hblank, words_coordinateText hcomma, words_coordinateText hclose,
      words_separator hblank, words_separator hclose, words_nil]
    rfl

/-- The numerals of a literal are plain if what it shows are rational numbers. -/
theorem plain_numerals_iff (s : Shape Float) :
    (∀ n ∈ numerals s.wkt, IsPlainNumeral n) ↔ ∀ x ∈ s.coordinates, IsRational x := by
  rw [numerals_wkt]
  simp only [List.mem_map, forall_exists_index, and_imp, forall_apply_eq_imp_iff₂, isPlainNumeral_coordinateText_iff,
    mem_written]

end Shape

namespace Spatial

/-- The literals of a predicate are those of the parts of a shape. The numerals of each are plain if the part is given by
rational numbers, and otherwise they are not: the shape is taken as it is read. -/
theorem predicate_literals {namespaceName : String} {field : Option String} {p : Parameters} {text : String}
    {projection : Projection} {calls : Nat} (h : predicate namespaceName field p projection calls = .ok text) :
    ∃ function name s, functionOf p.relation = .ok function ∧ field = some name ∧
      shape p.geometry p.inReference projection calls = .ok s ∧ text = alternatives function namespaceName name s ∧
      ∀ part ∈ s.parts, numerals part.wkt = part.written.map (fun x => (coordinateText x).toList) ∧
        ((∀ n ∈ numerals part.wkt, IsPlainNumeral n) ↔ ∀ x ∈ part.coordinates, IsRational x) := by
  unfold predicate at h
  cases field with
  | none => cases h
  | some name =>
    dsimp only at h
    split at h
    · cases h
    · obtain ⟨function, hfunction, h⟩ := exists_of_bind_eq_ok h
      obtain ⟨s, hshape, htext⟩ := exists_of_bind_eq_ok h
      cases htext
      exact ⟨function, name, s, hfunction, rfl, hshape, rfl, fun part _ => ⟨part.numerals_wkt, part.plain_numerals_iff⟩⟩

def shapePredicate (literal : String) : String :=
  "esri.graph.ST_Intersects(esri.graph.ST_WKTToGeometry('" ++ literal ++ "'), n.shape)"

theorem predicate_eq_ok_of_toOption {p : Parameters} {text : String}
    (h : (predicate "n" (some "shape") p).toOption = some text) : predicate "n" (some "shape") p = .ok text := by
  cases hp : predicate "n" (some "shape") p with
  | error e =>
    rw [hp] at h
    cases h
  | ok a =>
    rw [hp] at h
    cases h
    rfl

theorem predicate_literals_fraction :
    let p : Parameters := { geometry := .text "-10,-5.25,1e2,5" }
    let text := shapePredicate "POLYGON((-10 -5.25, 100 -5.25, 100 5, -10 5, -10 -5.25))"
    predicate "n" (some "shape") p = .ok text ∧ ∃ function name s,
      shape p.geometry p.inReference = .ok s ∧ text = alternatives function "n" name s ∧
        ∀ part ∈ s.parts, (∀ n ∈ numerals part.wkt, IsPlainNumeral n) ↔ ∀ x ∈ part.coordinates, IsRational x := by
  intro p text
  have hpredicate : predicate "n" (some "shape") p = .ok text := predicate_eq_ok_of_toOption (by decide +kernel)
  obtain ⟨function, name, s, -, -, hshape, htext, hparts⟩ := predicate_literals hpredicate
  exact ⟨hpredicate, function, name, s, hshape, htext, fun part hpart => (hparts part hpart).2⟩

/-- A point that is nowhere has a predicate. -/
theorem not_plain_nan :
    predicate "n" (some "shape") { geometry := .text "nan,0" } = .ok (shapePredicate "POINT(nan 0)") ∧
      ∃ n ∈ numerals "POINT(nan 0)", ¬IsPlainNumeral n := by
  have hnumerals : numerals "POINT(nan 0)" = ["nan".toList, ['0']] := by decide +kernel
  refine ⟨predicate_eq_ok_of_toOption (by decide +kernel), "nan".toList, by simp [hnumerals], fun hplain => ?_⟩
  have hletter := hplain.mem 'n' (by simp)
  revert hletter
  decide

end Spatial
end FeatureGraph
