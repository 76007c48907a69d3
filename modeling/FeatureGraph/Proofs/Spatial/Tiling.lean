import FeatureGraph.Proofs.Spatial.Splitting

/-! # The pieces of an envelope

The coordinates are exact here. The pieces of an envelope lie side by side from its western border to its eastern one,
and each has the same share of its width. There are never more than four, so that no piece spans a hemisphere as long
as the envelope does not go around the world twice. -/
namespace FeatureGraph.Envelope

variable {e p q : Envelope ℚ} {n i j : ℕ} {x : ℚ}

/-- The degrees of longitude between the borders, fewer than none if these are in the wrong order. -/
def width (e : Envelope ℚ) : ℚ := e.xmax - e.xmin

def Spans (e : Envelope ℚ) (x : ℚ) : Prop := e.xmin ≤ x ∧ x ≤ e.xmax

/-- Pieces that make up an envelope. -/
structure Tiles (e : Envelope ℚ) (pieces : List (Envelope ℚ)) : Prop where
  first : pieces.head?.map xmin = some e.xmin
  last : pieces.getLast?.map xmax = some e.xmax
  adjacent : pieces.IsChain fun p q => p.xmax = q.xmin
  width_eq : ∀ p ∈ pieces, p.width = e.width / pieces.length
  height_eq : ∀ p ∈ pieces, p.ymin = e.ymin ∧ p.ymax = e.ymax
  covers : ∀ x, e.Spans x ↔ ∃ p ∈ pieces, p.Spans x
  /-- What is in two pieces is their common border. -/
  border : ∀ i j p q, i < j → pieces[i]? = some p → pieces[j]? = some q →
    ∀ x, p.Spans x → q.Spans x → j = i + 1 ∧ x = p.xmax ∧ x = q.xmin

/-! ## Between the cuts -/

def between (e : Envelope ℚ) (n i : ℕ) : Envelope ℚ := ⟨e.cut n i, e.ymin, e.cut n (i + 1), e.ymax⟩

theorem getElem?_pieces (hn : 0 < n) : (e.pieces n)[i]? = if i < n then some (e.between n i) else none := by
  rw [pieces_eq hn, List.getElem?_map]
  split
  · next hi => rw [List.getElem?_range hi]; rfl
  · next hi => rw [List.getElem?_eq_none (by simpa using hi)]; rfl

theorem mem_pieces (hn : 0 < n) : p ∈ e.pieces n ↔ ∃ i < n, e.between n i = p := by
  simp only [pieces_eq hn, List.mem_map, List.mem_range, between]

theorem cut_strictMono (hn : 0 < n) (hwidth : e.xmin < e.xmax) : StrictMono (e.cut n) := by
  intro i j hij
  have hstep : 0 < (e.xmax - e.xmin) / n := div_pos (sub_pos.2 hwidth) (by exact_mod_cast hn)
  have hij' : (i : ℚ) < j := by exact_mod_cast hij
  unfold cut
  linarith [mul_lt_mul_of_pos_right hij' hstep]

theorem width_between : (e.between n i).width = e.width / n := by
  unfold width between cut
  push_cast
  ring

/-- Between the borders is between two cuts. -/
theorem spans_iff (hn : 0 < n) (hwidth : e.xmin ≤ e.xmax) : e.Spans x ↔ ∃ i < n, (e.between n i).Spans x := by
  constructor
  · rintro ⟨hlow, hhigh⟩
    have hcuts : ∀ i, 0 < i → i < n → ¬Astride {(x, 0)} (e.cut n i) := by
      rintro i - - ⟨p, hp, p', hp', hbelow, habove⟩
      rw [Finset.mem_singleton] at hp hp'
      subst hp hp'
      exact lt_asymm hbelow habove
    obtain ⟨i, hi, hinside⟩ := exists_interval (c := e.cut n) (g := {(x, 0)}) hn
      (by simpa [cut_zero] using hlow) (by simpa [cut_self hn] using hhigh) hcuts
    exact ⟨i, hi, hinside _ (Finset.mem_singleton_self _)⟩
  · rintro ⟨i, hi, hlow, hhigh⟩
    have hbegin : e.xmin ≤ e.cut n i := cut_zero.symm.le.trans (cut_mono hwidth (Nat.zero_le i))
    have hend : e.cut n (i + 1) ≤ e.xmax := (cut_mono hwidth hi).trans (cut_self hn).le
    exact ⟨hbegin.trans hlow, hhigh.trans hend⟩

/-! ## Tilings -/

theorem tiles_singleton (e : Envelope ℚ) : Tiles e [e] where
  first := rfl
  last := rfl
  adjacent := .singleton _
  width_eq := by simp
  height_eq := by simp
  covers x := by simp
  border := by
    intro i j p q hij hi hj
    simp only [List.getElem?_singleton] at hi hj
    split at hj
    · omega
    · cases hj

theorem tiles_pieces (hn : 0 < n) (hwidth : e.xmin < e.xmax) : Tiles e (e.pieces n) where
  first := by rw [List.head?_eq_getElem?, getElem?_pieces hn, if_pos hn, Option.map_some, between, cut_zero]
  last := by
    have hlast : n - 1 + 1 = n := by omega
    rw [List.getLast?_eq_getElem?, length_pieces, getElem?_pieces hn, if_pos (by omega), Option.map_some, between, hlast,
      cut_self hn]
  adjacent := by
    rw [pieces_eq hn, List.isChain_map, List.isChain_iff_getElem]
    intro i hi
    simp only [List.getElem_range]
  width_eq := by
    intro p hp
    obtain ⟨i, -, rfl⟩ := (mem_pieces hn).1 hp
    rw [length_pieces, width_between]
  height_eq := by
    intro p hp
    obtain ⟨i, -, rfl⟩ := (mem_pieces hn).1 hp
    exact ⟨rfl, rfl⟩
  covers x := by
    rw [spans_iff hn hwidth.le]
    constructor
    · rintro ⟨i, hi, hx⟩
      exact ⟨_, (mem_pieces hn).2 ⟨i, hi, rfl⟩, hx⟩
    · rintro ⟨p, hp, hx⟩
      obtain ⟨i, hi, rfl⟩ := (mem_pieces hn).1 hp
      exact ⟨i, hi, hx⟩
  border := by
    intro i j p q hij hi hj x hp hq
    rw [getElem?_pieces hn, Option.ite_none_right_eq_some] at hi hj
    obtain ⟨-, ⟨⟩⟩ := hi
    obtain ⟨-, ⟨⟩⟩ := hj
    have hmono := cut_strictMono hn hwidth
    have hcuts : e.cut n (i + 1) ≤ e.cut n j := hmono.monotone hij
    have hback : e.cut n j ≤ e.cut n (i + 1) := hq.1.trans hp.2
    exact ⟨hmono.injective (le_antisymm hback hcuts), le_antisymm hp.2 (hcuts.trans hq.1),
      le_antisymm (hp.2.trans hcuts) hq.1⟩

/-! ## What an envelope is split into -/

theorem split_of_lt (h : e.width < 180) : e.split = [e] := by
  unfold width at h
  unfold split
  push_cast
  rw [if_neg (by linarith), if_neg (by linarith)]

theorem split_of_lt_world (h : 180 ≤ e.width) (hworld : e.width < 360) : e.split = e.pieces 2 := by
  unfold width at h hworld
  unfold split
  push_cast
  rw [if_neg (by linarith), if_pos (by linarith)]

theorem split_of_world_le (h : 360 ≤ e.width) : e.split = e.pieces 4 := by
  unfold width at h
  unfold split
  push_cast
  rw [if_pos (by linarith)]

/-- Below a hemisphere an envelope stays whole; from there on it is cut into two pieces, and into four if it spans the
world. The pieces make it up. -/
theorem split_tiles (e : Envelope ℚ) :
    (e.width < 180 → e.split = [e]) ∧ (180 ≤ e.width → e.width < 360 → e.split.length = 2) ∧
      (360 ≤ e.width → e.split.length = 4) ∧ Tiles e e.split := by
  refine ⟨split_of_lt, fun h hworld => ?_, fun h => ?_, ?_⟩
  · rw [split_of_lt_world h hworld, length_pieces]
  · rw [split_of_world_le h, length_pieces]
  · rcases lt_or_ge e.width 180 with h | h
    · rw [split_of_lt h]
      exact tiles_singleton e
    have hwidth : e.xmin < e.xmax := by
      unfold width at h
      linarith
    rcases lt_or_ge e.width 360 with hworld | hworld
    · rw [split_of_lt_world h hworld]
      exact tiles_pieces (by omega) hwidth
    · rw [split_of_world_le hworld]
      exact tiles_pieces (by omega) hwidth

/-! ## How wide the parts are -/

theorem envelope_mem_parts : Shape.envelope p ∈ (Shape.envelope e).parts ↔ p ∈ e.split := by
  simp [Shape.parts]

/-- No part that a predicate is written for has less than no width, and one spans less than a hemisphere exactly if the
envelope spans less than the world twice: four pieces are the most there are. -/
theorem width_of_part (hwidth : e.xmin ≤ e.xmax) :
    ∀ p, .envelope p ∈ (Shape.envelope e).parts → 0 ≤ p.width ∧ (p.width < 180 ↔ e.width < 720) := by
  intro p hp
  rw [envelope_mem_parts] at hp
  have hpositive : 0 ≤ e.width := sub_nonneg.2 hwidth
  have hshare : ∀ n, p ∈ e.pieces n → p.width = e.width / n := by
    intro n hmem
    have hn : 0 < n := by
      have := List.length_pos_of_mem hmem
      rwa [length_pieces] at this
    obtain ⟨i, -, rfl⟩ := (mem_pieces hn).1 hmem
    exact width_between
  rcases lt_or_ge e.width 180 with h | h
  · rw [split_of_lt h, List.mem_singleton] at hp
    subst hp
    exact ⟨hpositive, by constructor <;> intro <;> linarith⟩
  rcases lt_or_ge e.width 360 with hworld | hworld
  · rw [split_of_lt_world h hworld] at hp
    rw [hshare 2 hp]
    push_cast
    exact ⟨by linarith, by constructor <;> intro <;> linarith⟩
  · rw [split_of_world_le hworld] at hp
    rw [hshare 4 hp]
    push_cast
    exact ⟨by linarith, by constructor <;> intro <;> linarith⟩

/-- A span of 700 degrees, in the first of its four pieces. -/
theorem width_of_part_wide :
    let e : Envelope ℚ := ⟨-350, -10, 350, 10⟩
    let p : Envelope ℚ := ⟨-350, -10, -175, 10⟩
    e.xmin ≤ e.xmax ∧ .envelope p ∈ (Shape.envelope e).parts ∧ 0 ≤ p.width ∧ p.width < 180 := by
  intro e p
  have hwidth : e.xmin ≤ e.xmax := by norm_num [e]
  have hpart : .envelope p ∈ (Shape.envelope e).parts := by
    rw [envelope_mem_parts, split_of_world_le (by norm_num [width, e]), mem_pieces (by omega)]
    exact ⟨0, by omega, by norm_num [between, cut, e, p]⟩
  obtain ⟨hpositive, hnarrow⟩ := width_of_part hwidth p hpart
  exact ⟨hwidth, hpart, hpositive, hnarrow.2 (by norm_num [width, e])⟩

/-- A span of 800 degrees gives four pieces of 200. -/
theorem not_width_of_part_lt :
    let e : Envelope ℚ := ⟨-400, -10, 400, 10⟩
    e.xmin ≤ e.xmax ∧ ¬∀ p, .envelope p ∈ (Shape.envelope e).parts → 0 ≤ p.width ∧ p.width < 180 := by
  intro e
  refine ⟨by norm_num [e], fun h => ?_⟩
  have hpart : .envelope ⟨-400, -10, -200, 10⟩ ∈ (Shape.envelope e).parts := by
    rw [envelope_mem_parts, split_of_world_le (by norm_num [width, e]), mem_pieces (by omega)]
    exact ⟨0, by omega, by norm_num [between, cut, e]⟩
  exact absurd (h _ hpart).2 (by norm_num [width])

end FeatureGraph.Envelope
