import FeatureGraph.Proofs.Number.Places
import FeatureGraph.Spatial.Filter

/-! # Envelopes that are moved to degrees

The corners of an envelope are moved one by one, and each of them is brought back to one turn of the globe by itself. An
envelope stays in order from south to north. From west to east it stays in order if both corners lie in one turn;
otherwise it comes out turned around, unless it is as wide as the turns between its corners. -/
namespace FeatureGraph

open Number

namespace Projection

/-- A projection that has a place for every point. -/
def ofTotal (transform : Float → Float → Float × Float) : Projection where
  transform x y := some (transform x y)

def rounded (transform : Float → Float → Float × Float) (x y : Float) : Float × Float :=
  (roundPlaces 6 (transform x y).1, roundPlaces 6 (transform x y).2)

theorem shape?_ofTotal_envelope (transform : Float → Float → Float × Float) (e : Envelope Float) :
    (ofTotal transform).shape? (.envelope e) = some (.envelope
      ⟨(rounded transform e.xmin e.ymin).1, (rounded transform e.xmin e.ymin).2, (rounded transform e.xmax e.ymax).1,
        (rounded transform e.xmax e.ymax).2⟩) := rfl

theorem sphere_eq : sphere = ofTotal onSphere := rfl

end Projection

namespace Spatial

/-- A shape in Web Mercator is moved to degrees, if the projection has a place for it. -/
theorem shape_of_located {geometry inReference : Json} {s : Shape Float} {n : ℤ} {calls : ℕ} (projection : Projection)
    (hlocated : located geometry inReference calls = .ok (s, some n)) (hn : n ∈ webMercator) :
    shape geometry inReference projection calls = inDegrees projection s := by
  have hcontains : (some n).any webMercator.contains = true := by simpa using hn
  rw [shape, hlocated]
  show (if (some n).any webMercator.contains then _ else _) = _
  rw [if_pos hcontains]

theorem shape_envelope_of_located {geometry inReference : Json} {e : Envelope Float} {n : ℤ} {calls : ℕ}
    (transform : Float → Float → Float × Float)
    (hlocated : located geometry inReference calls = .ok (.envelope e, some n)) (hn : n ∈ webMercator) :
    shape geometry inReference (.ofTotal transform) calls = .ok (.envelope
      ⟨(Projection.rounded transform e.xmin e.ymin).1, (Projection.rounded transform e.xmin e.ymin).2,
        (Projection.rounded transform e.xmax e.ymax).1, (Projection.rounded transform e.xmax e.ymax).2⟩) := by
  rw [shape_of_located _ hlocated hn, inDegrees, Projection.shape?_ofTotal_envelope]
  rfl

/-! ## From Web Mercator -/

/-- The longitude of a number of metres, on a globe that does not end. -/
noncomputable def degrees (x : ℚ) : ℝ := x / 6378137 * (180 / Real.pi)

theorem monotone_degrees : Monotone degrees := by
  intro a b hab
  have hcast : (a : ℝ) ≤ b := by exact_mod_cast hab
  have hscale : 0 ≤ 180 / Real.pi := by positivity
  exact mul_le_mul_of_nonneg_right (div_le_div_of_nonneg_right hcast (by norm_num)) hscale

theorem monotone_round : Monotone (round : ℝ → ℤ) := by
  intro x y hxy
  rw [round_eq, round_eq]
  exact Int.floor_le_floor (by linarith)

/-- Some hundred degrees are not too many millionths. -/
theorem abs_round_le {x : ℝ} (hx : |x| ≤ 200) : |round (10 ^ 6 * x)| ≤ 10 ^ 12 := by
  have hround : |10 ^ 6 * x - round (10 ^ 6 * x)| ≤ 1 / 2 := abs_sub_round _
  rw [abs_le] at hx hround
  generalize round (10 ^ 6 * x) = n at hround
  have hsize : |(n : ℝ)| ≤ 10 ^ 12 := by
    rw [abs_le]
    constructor <;> linarith
  exact_mod_cast hsize

/-- A transformation from Web Mercator: longitudes are taken back by whole turns, and are as exact as six places show;
latitudes do not decrease from south to north. -/
structure InverseMercator where
  transform : Float → Float → Float × Float
  longitude : ℚ → ℚ
  latitude : ℚ → ℚ
  /-- The turns that a longitude is taken back by. -/
  turns : ℚ → ℤ
  hasValue_longitude {x y : Float} {a b : ℚ} (hx : HasValue x a) (hy : HasValue y b) :
    HasValue (transform x y).1 (longitude a)
  hasValue_latitude {x y : Float} {a b : ℚ} (hx : HasValue x a) (hy : HasValue y b) :
    HasValue (transform x y).2 (latitude b)
  nearest_longitude (a : ℚ) : nearest (10 ^ 6 * longitude a) = round (10 ^ 6 * (degrees a - 360 * turns a))
  abs_wrapped_le (a : ℚ) : |degrees a - 360 * turns a| ≤ 180 + 1 / 10 ^ 9
  turns_eq_zero (a : ℚ) (ha : |degrees a| ≤ 180) : turns a = 0
  monotone_latitude : Monotone latitude
  abs_latitude_le (b : ℚ) : |latitude b| ≤ 90

namespace InverseMercator

variable (p : InverseMercator) {x y x' y' : Float} {a b a' b' : ℚ}

/-- The longitude of a number of metres in millionths of a degree, without its turns. -/
noncomputable def eastward (a : ℚ) : ℤ := round (10 ^ 6 * degrees a) - 360 * 10 ^ 6 * p.turns a

theorem round_wrapped (a : ℚ) : round (10 ^ 6 * (degrees a - 360 * p.turns a)) = p.eastward a := by
  have hturns : (10 : ℝ) ^ 6 * (degrees a - 360 * p.turns a) =
      10 ^ 6 * degrees a - ((360 * 10 ^ 6 * p.turns a : ℤ) : ℝ) := by
    push_cast
    ring
  rw [hturns, round_sub_intCast]
  rfl

theorem abs_eastward_le (a : ℚ) : |p.eastward a| ≤ 10 ^ 12 := by
  rw [← p.round_wrapped]
  exact abs_round_le ((p.abs_wrapped_le a).trans (by norm_num))

theorem abs_nearest_latitude_le (b : ℚ) : |nearest (10 ^ 6 * p.latitude b)| ≤ 10 ^ 12 := by
  obtain ⟨hround, hround'⟩ := abs_le.1 (abs_nearest_sub_le (10 ^ 6 * p.latitude b))
  obtain ⟨hlatitude, hlatitude'⟩ := abs_le.1 (p.abs_latitude_le b)
  generalize nearest (10 ^ 6 * p.latitude b) = n at hround hround'
  have hsize : |(n : ℚ)| ≤ 10 ^ 12 := by
    rw [abs_le]
    constructor <;> linarith
  exact_mod_cast hsize

variable {p} (hx : HasValue x a) (hy : HasValue y b) (hx' : HasValue x' a') (hy' : HasValue y' b')
include hx hy

theorem inMillionths_longitude : InMillionths (p.transform x y).1 (p.eastward a) :=
  ⟨_, p.hasValue_longitude hx hy, (p.nearest_longitude a).trans (p.round_wrapped a)⟩

include hx' hy'

/-- Longitudes are in order if what is left of them without their turns is. -/
theorem rounded_fst_le_iff : (Projection.rounded p.transform x y).1 ≤ (Projection.rounded p.transform x' y').1 ↔
    p.eastward a ≤ p.eastward a' :=
  (inMillionths_longitude hx hy).rounded_le_iff (inMillionths_longitude hx' hy') (p.abs_eastward_le a)
    (p.abs_eastward_le a')

/-- Latitudes stay in order. -/
theorem rounded_snd_le (hle : b ≤ b') :
    (Projection.rounded p.transform x y).2 ≤ (Projection.rounded p.transform x' y').2 := by
  have hlow : InMillionths (p.transform x y).2 (nearest (10 ^ 6 * p.latitude b)) :=
    ⟨_, p.hasValue_latitude hx hy, rfl⟩
  have hhigh : InMillionths (p.transform x' y').2 (nearest (10 ^ 6 * p.latitude b')) :=
    ⟨_, p.hasValue_latitude hx' hy', rfl⟩
  refine (hlow.rounded_le_iff hhigh (p.abs_nearest_latitude_le b) (p.abs_nearest_latitude_le b')).2 ?_
  exact nearest_mono (mul_le_mul_of_nonneg_left (p.monotone_latitude hle) (by norm_num))

end InverseMercator

/-- An envelope in Web Mercator is moved to degrees: its latitudes are in order, and each longitude is the one that was
given without its turns. The longitudes are in order if the turns between them are no more than the envelope is wide,
as they are if both lie in one turn. -/
theorem shape_envelope (p : InverseMercator) {geometry inReference : Json} {e : Envelope Float} {n : ℤ} {calls : ℕ}
    {west south east north : ℚ} (hlocated : located geometry inReference calls = .ok (.envelope e, some n))
    (hn : n ∈ webMercator) (hwest : HasValue e.xmin west) (hsouth : HasValue e.ymin south)
    (heast : HasValue e.xmax east) (hnorth : HasValue e.ymax north) (hx : e.xmin ≤ e.xmax) (hy : e.ymin ≤ e.ymax) :
    ∃ e', shape geometry inReference (.ofTotal p.transform) calls = .ok (.envelope e') ∧ e'.ymin ≤ e'.ymax ∧
      InMillionths e'.xmin (round (10 ^ 6 * degrees west) - 360 * 10 ^ 6 * p.turns west) ∧
      InMillionths e'.xmax (round (10 ^ 6 * degrees east) - 360 * 10 ^ 6 * p.turns east) ∧
      (e'.xmin ≤ e'.xmax ↔ 360 * 10 ^ 6 * (p.turns east - p.turns west) ≤
        round (10 ^ 6 * degrees east) - round (10 ^ 6 * degrees west)) ∧
      (p.turns west = p.turns east → e'.xmin ≤ e'.xmax) ∧
      (|degrees west| ≤ 180 → |degrees east| ≤ 180 → e'.xmin ≤ e'.xmax) := by
  have hx' : west ≤ east := (hwest.le_iff heast).1 hx
  have hy' : south ≤ north := (hsouth.le_iff hnorth).1 hy
  let low := Projection.rounded p.transform e.xmin e.ymin
  let high := Projection.rounded p.transform e.xmax e.ymax
  have hshape : shape geometry inReference (.ofTotal p.transform) calls =
      .ok (.envelope ⟨low.1, low.2, high.1, high.2⟩) := shape_envelope_of_located p.transform hlocated hn
  have hiff : low.1 ≤ high.1 ↔ 360 * 10 ^ 6 * (p.turns east - p.turns west) ≤
      round (10 ^ 6 * degrees east) - round (10 ^ 6 * degrees west) := by
    refine (InverseMercator.rounded_fst_le_iff hwest hsouth heast hnorth).trans ?_
    unfold InverseMercator.eastward
    constructor <;> intro h <;> linarith
  have hsame (hturns : p.turns west = p.turns east) : low.1 ≤ high.1 := by
    have hmono : round (10 ^ 6 * degrees west) ≤ round (10 ^ 6 * degrees east) :=
      monotone_round (mul_le_mul_of_nonneg_left (monotone_degrees hx') (by norm_num))
    rw [hiff, hturns]
    linarith
  refine ⟨_, hshape, InverseMercator.rounded_snd_le hwest hsouth heast hnorth hy', ?_, ?_, hiff, hsame, ?_⟩
  · exact (InverseMercator.inMillionths_longitude hwest hsouth).rounded (p.abs_eastward_le west)
  · exact (InverseMercator.inMillionths_longitude heast hnorth).rounded (p.abs_eastward_le east)
  · intro hinside hinside'
    exact hsame ((p.turns_eq_zero west hinside).trans (p.turns_eq_zero east hinside').symm)

/-! ## The exact transformation -/

/-- The turns that bring a number of metres back into one turn. -/
noncomputable def wholeTurns (a : ℚ) : ℤ := if |degrees a| ≤ 180 then 0 else round (degrees a / 360)

theorem abs_degrees_sub_le (a : ℚ) : |degrees a - 360 * wholeTurns a| ≤ 180 := by
  unfold wholeTurns
  split
  · next h => simpa using h
  · have hround := abs_sub_round (degrees a / 360)
    have hscale : degrees a - 360 * round (degrees a / 360) = 360 * (degrees a / 360 - round (degrees a / 360)) := by ring
    rw [hscale, abs_mul, abs_of_pos (by norm_num)]
    linarith

/-- The latitude of a number of metres, in millionths of a degree. -/
noncomputable def northward (b : ℚ) : ℤ := round (10 ^ 6 * (Real.arctan (Real.sinh (b / 6378137)) * (180 / Real.pi)))

theorem monotone_northward : Monotone northward := by
  intro b b' hb
  have hcast : (b : ℝ) / 6378137 ≤ b' / 6378137 := div_le_div_of_nonneg_right (by exact_mod_cast hb) (by norm_num)
  have harctan := Real.arctan_strictMono.monotone (Real.sinh_le_sinh.2 hcast)
  have hscale : 0 ≤ 180 / Real.pi := by positivity
  exact monotone_round (mul_le_mul_of_nonneg_left (mul_le_mul_of_nonneg_right harctan hscale) (by norm_num))

theorem northward_bounds (b : ℚ) : -90000000 ≤ northward b ∧ northward b ≤ 90000000 := by
  have hpi := Real.pi_pos
  have hquarter : Real.pi / 2 * (180 / Real.pi) = 90 := by
    field_simp
    norm_num
  have hscale : 0 < 180 / Real.pi := by positivity
  have hlow := mul_lt_mul_of_pos_right (Real.neg_pi_div_two_lt_arctan (Real.sinh (b / 6378137))) hscale
  have hhigh := mul_lt_mul_of_pos_right (Real.arctan_lt_pi_div_two (Real.sinh (b / 6378137))) hscale
  rw [neg_mul, hquarter] at hlow
  rw [hquarter] at hhigh
  have hminus : round (-90000000 : ℝ) = -90000000 := by exact_mod_cast round_intCast (α := ℝ) (-90000000)
  have hplus : round (90000000 : ℝ) = 90000000 := by exact_mod_cast round_intCast (α := ℝ) 90000000
  rw [← hminus, ← hplus]
  exact ⟨monotone_round (by linarith), monotone_round (by linarith)⟩

theorem abs_northward_le (b : ℚ) : |northward b| ≤ 10 ^ 12 := by
  obtain ⟨hlow, hhigh⟩ := northward_bounds b
  exact abs_le.2 ⟨by omega, by omega⟩

/-- The longitude of a number of metres in one turn, in millionths of a degree. -/
noncomputable def eastwardOnce (a : ℚ) : ℤ := round (10 ^ 6 * (degrees a - 360 * wholeTurns a))

theorem abs_eastwardOnce_le (a : ℚ) : |eastwardOnce a| ≤ 10 ^ 12 :=
  abs_round_le ((abs_degrees_sub_le a).trans (by norm_num))

theorem abs_value_northward_le (b : ℚ) : |value (ofMillionths (northward b))| ≤ 90 := by
  obtain ⟨hlow, hhigh⟩ := northward_bounds b
  have hsouth : value (ofMillionths (-90000000)) = -90 := by
    have hparts : parts (ofMillionths (-90000000)) = .finite true 6333186975989760 (-46) := by decide +kernel
    rw [(hasValue_of_parts hparts).value_eq]
    norm_num
  have hnorth : value (ofMillionths 90000000) = 90 := by
    have hparts : parts (ofMillionths 90000000) = .finite false 6333186975989760 (-46) := by decide +kernel
    rw [(hasValue_of_parts hparts).value_eq]
    norm_num
  rw [abs_le, ← hsouth, ← hnorth]
  exact ⟨value_ofMillionths_le (by norm_num) (abs_northward_le b) hlow,
    value_ofMillionths_le (abs_northward_le b) (by norm_num) hhigh⟩

/-- The doubles nearest to what the projection of a sphere comes to, in whole millionths of a degree. -/
noncomputable def InverseMercator.exact : InverseMercator where
  transform x y := (ofMillionths (eastwardOnce (value x)), ofMillionths (northward (value y)))
  longitude a := value (ofMillionths (eastwardOnce a))
  latitude b := value (ofMillionths (northward b))
  turns := wholeTurns
  hasValue_longitude hx _ := by
    rw [hx.value_eq]
    exact (hasValue_ofMillionths (abs_eastwardOnce_le _)).1
  hasValue_latitude _ hy := by
    rw [hy.value_eq]
    exact (hasValue_ofMillionths (abs_northward_le _)).1
  nearest_longitude a := nearest_value_ofMillionths (abs_eastwardOnce_le a)
  abs_wrapped_le a := (abs_degrees_sub_le a).trans (by norm_num)
  turns_eq_zero a ha := if_pos ha
  monotone_latitude _ _ hb := value_ofMillionths_le (abs_northward_le _) (abs_northward_le _) (monotone_northward hb)
  abs_latitude_le := abs_value_northward_le

/-- An envelope of whole metres in Web Mercator, as it is sent. -/
def metres (xmin ymin xmax ymax : ℤ) : Json :=
  .object [("xmin", .int xmin), ("ymin", .int ymin), ("xmax", .int xmax), ("ymax", .int ymax),
    ("spatialReference", .object [("wkid", .int 102100)])]

theorem located_crossing : located (metres 20000000 0 21000000 10000000) .null =
    .ok (.envelope ⟨.ofInt 20000000, .ofInt 0, .ofInt 21000000, .ofInt 10000000⟩, some 102100) := rfl

theorem degrees_eq (a : ℚ) : degrees a = a / 6378137 / Real.pi * 180 := by
  unfold degrees
  ring

theorem wholeTurns_west : wholeTurns 20000000 = 0 := by
  have hpi := Real.pi_gt_d2
  have hle : ((20000000 : ℚ) : ℝ) / 6378137 / Real.pi ≤ 1 := by
    rw [div_le_one Real.pi_pos]
    push_cast
    linarith
  refine if_pos ?_
  rw [degrees_eq, abs_of_nonneg (by positivity)]
  linarith

theorem degrees_east_bounds : 180 < degrees 21000000 ∧ degrees 21000000 < 190 := by
  have hpi := Real.pi_gt_d2
  have hpi' := Real.pi_lt_d2
  have hlow : 1 < ((21000000 : ℚ) : ℝ) / 6378137 / Real.pi := by
    rw [one_lt_div Real.pi_pos]
    push_cast
    linarith
  have hhigh : ((21000000 : ℚ) : ℝ) / 6378137 / Real.pi < 19 / 18 := by
    rw [div_lt_iff₀ Real.pi_pos]
    push_cast
    linarith
  rw [degrees_eq]
  exact ⟨by linarith, by linarith⟩

theorem wholeTurns_east : wholeTurns 21000000 = 1 := by
  obtain ⟨hlow, hhigh⟩ := degrees_east_bounds
  have hbeyond : ¬|degrees 21000000| ≤ 180 := fun h => hlow.not_ge ((le_abs_self _).trans h)
  unfold wholeTurns
  rw [if_neg hbeyond, round_eq_iff]
  constructor <;> push_cast <;> linarith

/-- The antimeridian lies between the corners, and the envelope comes out turned around. -/
theorem shape_envelope_crossing : ∃ e',
    shape (metres 20000000 0 21000000 10000000) .null (.ofTotal InverseMercator.exact.transform) = .ok (.envelope e') ∧
      e'.ymin ≤ e'.ymax ∧ ¬e'.xmin ≤ e'.xmax := by
  have hwest : HasValue (.ofInt 20000000) (20000000 : ℤ) := equalsInt_iff.1 (by decide +kernel)
  have hsouth : HasValue (.ofInt 0) (0 : ℤ) := equalsInt_iff.1 (by decide +kernel)
  have heast : HasValue (.ofInt 21000000) (21000000 : ℤ) := equalsInt_iff.1 (by decide +kernel)
  have hnorth : HasValue (.ofInt 10000000) (10000000 : ℤ) := equalsInt_iff.1 (by decide +kernel)
  obtain ⟨e', hshape, hy, -, -, hiff, -⟩ := shape_envelope .exact located_crossing (by decide) hwest hsouth heast
    hnorth (by decide +kernel) (by decide +kernel)
  refine ⟨e', hshape, hy, fun h => ?_⟩
  have hwide := hiff.1 h
  have hturns : InverseMercator.exact.turns = wholeTurns := rfl
  rw [hturns, Int.cast_ofNat, Int.cast_ofNat, wholeTurns_west, wholeTurns_east] at hwide
  have hpositive : 0 ≤ degrees 20000000 := by
    rw [degrees_eq]
    positivity
  have hlow := sub_half_lt_round (10 ^ 6 * degrees 20000000)
  have hhigh := round_le_add_half (10 ^ 6 * degrees 21000000)
  generalize round (10 ^ 6 * degrees 20000000) = n at hwide hlow
  generalize round (10 ^ 6 * degrees 21000000) = n' at hwide hhigh
  have hwide' : (360 * 10 ^ 6 * (1 - 0) : ℝ) ≤ n' - n := by exact_mod_cast hwide
  linarith [degrees_east_bounds.2]

/-- The same envelope as the projection of the model moves it: its east is west of its west. -/
theorem shape_crossing_not_le : ∃ e e',
    located (metres 20000000 0 21000000 10000000) .null = .ok (.envelope e, some 102100) ∧ e.xmin ≤ e.xmax ∧
      e.ymin ≤ e.ymax ∧ shape (metres 20000000 0 21000000 10000000) .null = .ok (.envelope e') ∧
      e'.xmin = 179.663057 ∧ e'.xmax = -171.35379 ∧ ¬e'.xmin ≤ e'.xmax := by
  have hshape := shape_envelope_of_located Projection.onSphere located_crossing (by decide)
  have hwest : (Projection.rounded Projection.onSphere (.ofInt 20000000) (.ofInt 0)).1 = 179.663057 := by decide +kernel
  have heast : (Projection.rounded Projection.onSphere (.ofInt 21000000) (.ofInt 10000000)).1 = -171.35379 := by
    decide +kernel
  rw [← Projection.sphere_eq] at hshape
  generalize Projection.rounded Projection.onSphere (.ofInt 20000000) (.ofInt 0) = low at hshape hwest
  generalize Projection.rounded Projection.onSphere (.ofInt 21000000) (.ofInt 10000000) = high at hshape heast
  refine ⟨_, ⟨low.1, low.2, high.1, high.2⟩, located_crossing, by decide +kernel, by decide +kernel, hshape, hwest,
    heast, ?_⟩
  show ¬low.1 ≤ high.1
  rw [hwest, heast]
  decide +kernel

end Spatial

end FeatureGraph
