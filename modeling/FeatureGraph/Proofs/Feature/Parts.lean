import FeatureGraph.Feature.Geometry
import FeatureGraph.Proofs.Quantization.Rational

/-! # Geometries of several parts

The steps run on from one part to the next, and the lengths cut the points where the parts end. Lines and rings come
out as they went in: no point is lost or goes to another part, whatever the parts and even if some are empty. -/
namespace FeatureGraph.FeatureGeometry

/-- Parts that were joined are cut off again, after some members that come before them. -/
theorem parts_flatten {β : Type} (before : List β) (ps : List (List β)) :
    parts (before ++ ps.flatten) before.length (ps.map fun p => (p.length : Int)) = ps := by
  induction ps generalizing before with
  | nil => rfl
  | cons p ps ih =>
    have hrest := ih (before ++ p)
    rw [List.append_assoc, List.length_append, Nat.cast_add] at hrest
    have hfirst : segment (before ++ (p ++ ps.flatten)) before.length ((before.length : Int) + p.length) = p := by
      rw [segment_natCast, List.drop_left, List.take_left]
    simp only [List.map_cons, List.flatten_cons, parts, hfirst, hrest]

variable {α : Type}

theorem ofPoints?_polygon {ps : List (List (α × α))} (hps : ps ≠ []) :
    ofPoints? "esriGeometryTypePolygon" (ps.map fun p => (p.length : Int)) ps.flatten = some (.polygon ps) := by
  show some (polygon _) = _
  congr 2
  by_cases hmany : 1 < ps.length
  · rw [if_pos (by simpa using hmany)]
    exact parts_flatten [] ps
  · rw [if_neg (by simpa using hmany)]
    obtain ⟨p, rfl⟩ : ∃ p, ps = [p] := by
      have hpos := List.length_pos_iff.2 hps
      exact List.length_eq_one_iff.1 (by omega)
    simp

theorem ofPoints?_multiLine {ps : List (List (α × α))} (hps : 2 ≤ ps.length) :
    ofPoints? "esriGeometryTypePolyline" (ps.map fun p => (p.length : Int)) ps.flatten = some (.multiLine ps) := by
  show some (if _ then multiLine _ else _) = _
  have hmany : 1 < (ps.map fun p => (p.length : Int)).length := by rwa [List.length_map]
  rw [if_pos (decide_eq_true hmany)]
  exact congrArg (some ∘ multiLine) (parts_flatten [] ps)

/-- A geometry that is the steps through some points, in parts of given lengths. -/
def quantized (tag : String) (ps : List (List (ℤ × ℤ))) : QuantizedGeometry :=
  { tag, coords := Quantization.steps ps.flatten, lengths := ps.map fun p => (p.length : Int) }

theorem ofQuantized?_quantized {q : Quantization ℚ} {t : Affine ℚ} (ht : q.toWorld? = some t) (tag : String)
    (ps : List (List (ℤ × ℤ))) :
    let world := ps.map (List.map fun p => t.apply p.1 p.2)
    ofQuantized? (quantized tag ps) (some q) =
      .ok (ofPoints? tag (world.map fun p => (p.length : Int)) world.flatten) := by
  intro world
  have hlengths : (world.map fun p => (p.length : Int)) = ps.map fun p => (p.length : Int) := by
    simp only [world, List.map_map, Function.comp_def, List.length_map]
  have hpoints : world.flatten = ps.flatten.map fun p => t.apply p.1 p.2 := List.map_flatten.symm
  rw [hlengths, hpoints]
  unfold ofQuantized?
  show (do return ofPoints? tag _ (← q.dequantize (Quantization.steps ps.flatten))) = _
  rw [Quantization.dequantize_steps ht]
  rfl

/-- Rings and lines are read back part by part, every point at the place in the world that it stands for: as many
rings as parts, as many lines as parts, or one line. -/
theorem ofQuantized?_parts (q : Quantization ℚ) (hx : q.xScale ≠ 0) (hy : q.yScale ≠ 0)
    (ps : List (List (ℤ × ℤ))) (hps : ps ≠ []) :
    ∃ t, q.toWorld? = some t ∧ (∀ p : ℤ × ℤ, t.apply p.1 p.2 = q.world p) ∧
      ofQuantized? (quantized "esriGeometryTypePolygon" ps) (some q) =
        .ok (some (.polygon (ps.map (List.map fun p => t.apply p.1 p.2)))) ∧
      (2 ≤ ps.length → ofQuantized? (quantized "esriGeometryTypePolyline" ps) (some q) =
        .ok (some (.multiLine (ps.map (List.map fun p => t.apply p.1 p.2))))) ∧
      ∀ part, ps = [part] → ofQuantized? (quantized "esriGeometryTypePolyline" ps) (some q) =
        .ok (some (.line (part.map fun p => t.apply p.1 p.2))) := by
  obtain ⟨t, ht, hworld⟩ := Quantization.exists_toWorld? hx hy
  refine ⟨t, ht, hworld, ?_, fun hmany => ?_, fun part hpart => ?_⟩
  · rw [ofQuantized?_quantized ht, ofPoints?_polygon (by simpa using hps)]
  · rw [ofQuantized?_quantized ht, ofPoints?_multiLine (by simpa using hmany)]
  · subst hpart
    rw [ofQuantized?_quantized ht]
    show Except.ok (some (line [part.map _].flatten)) = _
    rw [List.flatten_singleton]

/-- Two lines with an empty one between them, under a negative scale and a shift. -/
theorem ofQuantized?_parts_empty :
    ofQuantized? (quantized "esriGeometryTypePolyline" [[(0, 0), (3, 1)], [], [(3, 1), (-2, 5)]])
      (some (⟨1 / 2, -1, 10, 0⟩ : Quantization ℚ)) =
      .ok (some (.multiLine [[(10, 0), (23 / 2, -1)], [], [(23 / 2, -1), (9, -5)]])) := by
  obtain ⟨t, -, hworld, -, hlines, -⟩ := ofQuantized?_parts ⟨1 / 2, -1, 10, 0⟩ (by norm_num) (by norm_num)
    [[(0, 0), (3, 1)], [], [(3, 1), (-2, 5)]] (by decide)
  rw [hlines (by decide)]
  simp only [hworld]
  norm_num [Quantization.world]

end FeatureGraph.FeatureGeometry
