import Mathlib
import FeatureGraph.Spatial.Filter

/-! # What splitting an envelope does to its predicate

The coordinates are exact here. A wide envelope is cut into pieces, and the predicates of the pieces are
alternatives. Some piece meets a geometry when the envelope does; but a piece contains a geometry only if the
envelope does and no seam between two pieces runs through it. -/
namespace FeatureGraph

/-- Some points lie strictly on either side of a meridian. -/
def Astride (g : Finset (ℚ × ℚ)) (x : ℚ) : Prop := ∃ p ∈ g, ∃ p' ∈ g, p.1 < x ∧ x < p'.1

/-- Between increasing cuts that enclose some points, and that do not run through them, one interval has them all. -/
theorem exists_interval {c : ℕ → ℚ} {g : Finset (ℚ × ℚ)} {n : ℕ} (hn : 0 < n) (hlow : ∀ p ∈ g, c 0 ≤ p.1)
    (hhigh : ∀ p ∈ g, p.1 ≤ c n) (hcuts : ∀ i, 0 < i → i < n → ¬Astride g (c i)) :
    ∃ i < n, ∀ p ∈ g, c i ≤ p.1 ∧ p.1 ≤ c (i + 1) := by
  -- either the first interval has them, or they lie beyond the first cut
  induction n generalizing c with
  | zero => omega
  | succ n ih =>
    rcases Nat.eq_zero_or_pos n with rfl | hpos
    · exact ⟨0, by omega, fun p hp => ⟨hlow p hp, hhigh p hp⟩⟩
    by_cases hfirst : ∀ p ∈ g, p.1 ≤ c 1
    · exact ⟨0, by omega, fun p hp => ⟨hlow p hp, hfirst p hp⟩⟩
    push Not at hfirst
    obtain ⟨p', hp', hbeyond⟩ := hfirst
    have hlow' : ∀ p ∈ g, c (0 + 1) ≤ p.1 := by
      intro p hp
      by_contra hbelow
      exact hcuts 1 (by omega) (by omega) ⟨p, hp, p', hp', not_le.1 hbelow, hbeyond⟩
    obtain ⟨i, hi, hall⟩ := ih (c := fun i => c (i + 1)) hpos hlow' hhigh
      fun i h0 hi => hcuts (i + 1) (by omega) (by omega)
    exact ⟨i + 1, by omega, hall⟩

namespace Envelope

variable {e : Envelope ℚ} {n i j : ℕ} {g : Finset (ℚ × ℚ)}

/-- The points of an envelope, its border included. -/
def region (e : Envelope ℚ) : Set (ℚ × ℚ) := {p | (e.xmin ≤ p.1 ∧ p.1 ≤ e.xmax) ∧ e.ymin ≤ p.2 ∧ p.2 ≤ e.ymax}

theorem mem_region {p : ℚ × ℚ} : p ∈ e.region ↔ (e.xmin ≤ p.1 ∧ p.1 ≤ e.xmax) ∧ e.ymin ≤ p.2 ∧ p.2 ≤ e.ymax := Iff.rfl

/-- Where the pieces of equal width begin and end. -/
def cut (e : Envelope ℚ) (n i : ℕ) : ℚ := e.xmin + i * ((e.xmax - e.xmin) / n)

theorem cut_zero : e.cut n 0 = e.xmin := by simp [cut]

theorem cut_self (hn : 0 < n) : e.cut n n = e.xmax := by
  have hn' : (n : ℚ) ≠ 0 := by exact_mod_cast hn.ne'
  rw [cut, mul_div_cancel₀ _ hn']
  ring

theorem cut_mono (hwidth : e.xmin ≤ e.xmax) (hij : i ≤ j) : e.cut n i ≤ e.cut n j := by
  have hstep : 0 ≤ (e.xmax - e.xmin) / n := div_nonneg (sub_nonneg.2 hwidth) (Nat.cast_nonneg n)
  have hij' : (i : ℚ) ≤ j := by exact_mod_cast hij
  unfold cut
  linarith [mul_le_mul_of_nonneg_right hij' hstep]

/-- Without rounding the last piece ends where the cuts do. -/
theorem pieces_eq (hn : 0 < n) :
    e.pieces n = (List.range n).map fun i => ⟨e.cut n i, e.ymin, e.cut n (i + 1), e.ymax⟩ := by
  unfold pieces
  apply List.map_congr_left
  intro i hi
  by_cases hlast : i + 1 = n
  · simp only [hlast, if_true, cut_self hn]
    rfl
  · simp only [hlast, if_false]
    rfl

/-- A piece has some points if the envelope has them and no cut runs through them. -/
theorem exists_piece_iff (hn : 0 < n) (hwidth : e.xmin ≤ e.xmax) :
    (∃ piece ∈ e.pieces n, ∀ p ∈ g, p ∈ piece.region) ↔
      (∀ p ∈ g, p ∈ e.region) ∧ ∀ i, 0 < i → i < n → ¬Astride g (e.cut n i) := by
  simp only [pieces_eq hn, List.mem_map, List.mem_range]
  constructor
  · rintro ⟨-, ⟨i, hi, rfl⟩, hall⟩
    have hbegin : e.xmin ≤ e.cut n i := cut_zero.symm.le.trans (cut_mono hwidth (Nat.zero_le i))
    have hend : e.cut n (i + 1) ≤ e.xmax := (cut_mono hwidth hi).trans (cut_self hn).le
    constructor
    · intro p hp
      obtain ⟨⟨hlow, hhigh⟩, hy⟩ := hall p hp
      exact ⟨⟨hbegin.trans hlow, hhigh.trans hend⟩, hy⟩
    · rintro j - - ⟨p, hp, p', hp', hlow, hhigh⟩
      rcases Nat.lt_or_ge i j with hij | hji
      · exact absurd ((hall p' hp').1.2.trans (cut_mono hwidth hij)) (not_le.2 hhigh)
      · exact absurd ((cut_mono hwidth hji).trans (hall p hp).1.1) (not_le.2 hlow)
  · rintro ⟨hall, hcuts⟩
    obtain ⟨i, hi, hinside⟩ := exists_interval (c := e.cut n) hn (fun p hp => cut_zero.le.trans (hall p hp).1.1)
      (fun p hp => (hall p hp).1.2.trans (cut_self hn).symm.le) hcuts
    exact ⟨_, ⟨i, hi, rfl⟩, fun p hp => ⟨hinside p hp, (hall p hp).2⟩⟩

/-! ## Splitting -/

/-- The meridians at which an envelope is split. -/
def seams (e : Envelope ℚ) : List ℚ := e.split.tail.map (·.xmin)

theorem split_cases (e : Envelope ℚ) : e.split = [e] ∨ ∃ n, 0 < n ∧ e.xmin ≤ e.xmax ∧ e.split = e.pieces n := by
  unfold split
  dsimp only
  split
  · next hspan =>
    push_cast at hspan
    exact .inr ⟨4, by omega, by linarith, rfl⟩
  · split
    · next hspan =>
      push_cast at hspan
      exact .inr ⟨2, by omega, by linarith, rfl⟩
    · exact .inl rfl

theorem mem_seams_of_pieces (hn : 0 < n) (h : e.split = e.pieces n) {x : ℚ} :
    x ∈ e.seams ↔ ∃ i, 0 < i ∧ i < n ∧ e.cut n i = x := by
  rw [seams, h, pieces_eq hn, ← List.map_tail, List.tail_range, List.map_map, List.mem_map]
  constructor
  · rintro ⟨i, hi, rfl⟩
    rw [List.mem_range'_1] at hi
    exact ⟨i, by omega, by omega, rfl⟩
  · rintro ⟨i, h0, hi, rfl⟩
    exact ⟨i, List.mem_range'_1.2 (by omega), rfl⟩

theorem exists_part_iff : (∃ part ∈ e.split, ∀ p ∈ g, p ∈ part.region) ↔
    (∀ p ∈ g, p ∈ e.region) ∧ ∀ x ∈ e.seams, ¬Astride g x := by
  rcases split_cases e with h | ⟨n, hn, hwidth, h⟩
  · have hnone : e.seams = [] := by rw [seams, h]; rfl
    simp only [h, hnone, List.mem_singleton, exists_eq_left, List.not_mem_nil, false_imp_iff, implies_true, and_true]
  · rw [h, exists_piece_iff hn hwidth]
    simp only [mem_seams_of_pieces hn h]
    refine and_congr_right fun _ => ⟨?_, ?_⟩
    · rintro hcuts x ⟨i, h0, hi, rfl⟩
      exact hcuts i h0 hi
    · intro hseams i h0 hi
      exact hseams _ ⟨i, h0, hi, rfl⟩

/-- No seam runs through a single point. -/
theorem exists_part_mem_iff {p : ℚ × ℚ} : (∃ part ∈ e.split, p ∈ part.region) ↔ p ∈ e.region := by
  have hpoint := exists_part_iff (e := e) (g := {p})
  have hseams : ∀ x ∈ e.seams, ¬Astride {p} x := by
    rintro x - ⟨p₁, h₁, p₂, h₂, hlow, hhigh⟩
    rw [Finset.mem_singleton] at h₁ h₂
    rw [h₁] at hlow
    rw [h₂] at hhigh
    exact lt_asymm hlow hhigh
  simp only [Finset.mem_singleton, forall_eq] at hpoint
  rw [hpoint]
  exact and_iff_left hseams

end Envelope

namespace Spatial

/-- What a function of the graph says of a region and the points of a geometry. -/
def Decides (function : String) (region : Set (ℚ × ℚ)) (g : Finset (ℚ × ℚ)) : Prop :=
  match function with
  | "esri.graph.ST_Intersects" => ∃ p ∈ g, p ∈ region
  | "esri.graph.ST_Contains" => ∀ p ∈ g, p ∈ region
  | _ => False

theorem intersects_split_iff (e : Envelope ℚ) (g : Finset (ℚ × ℚ)) :
    (∃ part ∈ e.split, Decides "esri.graph.ST_Intersects" part.region g) ↔
      Decides "esri.graph.ST_Intersects" e.region g := by
  simp only [Decides]
  constructor
  · rintro ⟨part, hpart, p, hp, hmem⟩
    exact ⟨p, hp, Envelope.exists_part_mem_iff.1 ⟨part, hpart, hmem⟩⟩
  · rintro ⟨p, hp, hmem⟩
    obtain ⟨part, hpart, hmem⟩ := Envelope.exists_part_mem_iff.2 hmem
    exact ⟨part, hpart, p, hp, hmem⟩

theorem contains_split_iff (e : Envelope ℚ) (g : Finset (ℚ × ℚ)) :
    (∃ part ∈ e.split, Decides "esri.graph.ST_Contains" part.region g) ↔
      Decides "esri.graph.ST_Contains" e.region g ∧ ∀ x ∈ e.seams, ¬Astride g x :=
  Envelope.exists_part_iff

/-- One of the parts of an envelope stands in a relation to a geometry if the whole envelope does, and for a part to
contain it, if besides no seam runs through it. -/
theorem exists_part_decides_iff (e : Envelope ℚ) (g : Finset (ℚ × ℚ)) :
    ∀ relation ∈ relations,
      ((∃ part ∈ e.split, Decides relation.2 part.region g) ↔
        Decides relation.2 e.region g ∧
          (relation.1 = "esriSpatialRelContains" → ∀ x ∈ e.seams, ¬Astride g x)) := by
  intro relation hrelation
  simp only [relations, List.mem_cons, List.not_mem_nil, or_false] at hrelation
  rcases hrelation with rfl | rfl
  · rw [intersects_split_iff]
    simp
  · rw [contains_split_iff]
    simp

/-- Two points on one side of the zero meridian, where the envelope is split. -/
theorem exists_part_decides_iff_east :
    let e : Envelope ℚ := ⟨-170, -10, 170, 10⟩
    let g : Finset (ℚ × ℚ) := {(1, 0), (2, 0)}
    ("esriSpatialRelContains", "esri.graph.ST_Contains") ∈ relations ∧
      ∃ part ∈ e.split, Decides "esri.graph.ST_Contains" part.region g := by
  intro e g
  have hrelation : ("esriSpatialRelContains", "esri.graph.ST_Contains") ∈ relations := by decide
  have hsplit : e.split = e.pieces 2 := by norm_num [Envelope.split, e]
  refine ⟨hrelation, (exists_part_decides_iff e g _ hrelation).2 ⟨?_, fun _ x hx => ?_⟩⟩
  · norm_num [Decides, Envelope.mem_region, e, g]
  · obtain ⟨i, h0, h2, rfl⟩ := (Envelope.mem_seams_of_pieces (by omega) hsplit).1 hx
    obtain rfl : i = 1 := by omega
    rintro ⟨p, hp, -, -, hwest, -⟩
    norm_num [Envelope.cut, e] at hwest
    rcases Finset.mem_insert.1 hp with rfl | hp
    · norm_num at hwest
    · rw [Finset.mem_singleton] at hp
      norm_num [hp] at hwest

/-- Two points on either side of the zero meridian, in an envelope that is split there. -/
theorem not_exists_part_contains :
    let e : Envelope ℚ := ⟨-170, -10, 170, 10⟩
    let g : Finset (ℚ × ℚ) := {(-1, 0), (1, 0)}
    e.xmin ≤ e.xmax ∧ e.ymin ≤ e.ymax ∧ g.Nonempty ∧
      ("esriSpatialRelContains", "esri.graph.ST_Contains") ∈ relations ∧
      Decides "esri.graph.ST_Contains" e.region g ∧
      ¬∃ part ∈ e.split, Decides "esri.graph.ST_Contains" part.region g := by
  intro e g
  have hseam : (0 : ℚ) ∈ e.seams := by
    have hsplit : e.split = e.pieces 2 := by norm_num [Envelope.split, e]
    exact (Envelope.mem_seams_of_pieces (by omega) hsplit).2 ⟨1, by omega, by omega, by norm_num [Envelope.cut, e]⟩
  refine ⟨by norm_num [e], by norm_num [e], ⟨_, Finset.mem_insert_self _ _⟩, by decide, ?_, ?_⟩
  · norm_num [Decides, Envelope.mem_region, e, g]
  · rw [contains_split_iff]
    rintro ⟨-, hfree⟩
    exact hfree 0 hseam ⟨(-1, 0), by simp [g], (1, 0), by simp [g], by norm_num, by norm_num⟩

end Spatial
end FeatureGraph
