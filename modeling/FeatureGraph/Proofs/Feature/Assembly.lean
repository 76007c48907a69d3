import FeatureGraph.Feature.Collection
import FeatureGraph.Proofs.Number.Whole
import FeatureGraph.Proofs.Response.Grid
import FeatureGraph.Proofs.Response.RoundTrip

/-! # How the assembly of a collection fails

Whatever a response holds, a collection of its rows can be assembled, with two exceptions. A transform with a zero
scale divides by zero as soon as a geometry is to be shown, and a count that is no finite number has no whole
part. -/
namespace FeatureGraph

/-! ## Geometries -/

namespace Quantization

/-- A quantization that has no map from the world to the grid. -/
def IsDegenerate (q : Quantization Float) : Prop := (q.xScale == 0 || q.yScale == 0) = true

theorem toWorld?_eq_none_iff {q : Quantization Float} : q.toWorld? = none ↔ q.IsDegenerate := by
  unfold toWorld? toGrid? IsDegenerate
  split
  · next h => simp [h]
  · next h => simp [h]

theorem not_isDegenerate_identity : ¬(identity : Quantization Float).IsDegenerate := by
  unfold IsDegenerate
  decide

theorem mem_of_mem_pairs {α : Type} : ∀ {coords : List α} {p : α × α}, p ∈ pairs coords → p.1 ∈ coords ∧ p.2 ∈ coords
  | [], p, h => absurd h List.not_mem_nil
  | [x], p, h => absurd h List.not_mem_nil
  | x :: y :: r, p, h => by
    rcases List.mem_cons.1 h with rfl | htail
    · simp
    · obtain ⟨h1, h2⟩ := mem_of_mem_pairs htail
      exact ⟨by simp [h1], by simp [h2]⟩

/-- Every number of 64 bits is a coordinate. -/
theorem ofGrid_eq_ok {n : Int} (hn : Wire.IsInt64 n) : GridCoordinate.ofGrid n = .ok (Float.ofInt n) := by
  have hsize : n.natAbs ≤ 2 ^ 64 := by
    obtain ⟨hlow, hhigh⟩ := hn
    omega
  simp only [GridCoordinate.ofGrid, Number.ofInt?_eq_some hsize, Option.elim_some]

theorem dequantize_faultsWhen (q : Quantization Float) {coords : List Int} (hcoords : ∀ n ∈ coords, Wire.IsInt64 n) :
    FaultsWhen q.IsDegenerate .divisionByZero (q.dequantize coords) := by
  unfold dequantize
  cases hworld : q.toWorld? with
  | none => exact .error (toWorld?_eq_none_iff.1 hworld)
  | some t =>
    have hregular : ¬q.IsDegenerate := by
      rw [← toWorld?_eq_none_iff, hworld]
      exact nofun
    obtain ⟨ps, hps⟩ : ∃ ps, (pairs coords).mapM (fun p => (do
        return ((← GridCoordinate.ofGrid p.1), (← GridCoordinate.ofGrid p.2)) : Except Defect (Float × Float))) =
          .ok ps := by
      refine exists_mapM_eq_ok fun p hp => ?_
      obtain ⟨h1, h2⟩ := mem_of_mem_pairs hp
      exact ⟨_, by simp only [ofGrid_eq_ok (hcoords _ h1), ofGrid_eq_ok (hcoords _ h2)]; rfl⟩
    dsimp only
    rw [hps]
    exact .ok _ hregular

end Quantization

/-! ## Features -/

/-- A value that is shown with a geometry: an entity that has one in the field, unless the field has no name. -/
def Value.Draws (field : Option String) : Value → Prop
  | entity _ properties _ => field ≠ some "" ∧ ∃ g, (field.bind fun name => properties.lookup name) = some (geometry g)
  | _ => False

def QueryResponse.IsDegenerate (r : QueryResponse) : Prop := ∃ q ∈ r.transform, q.IsDegenerate

namespace Feature

variable {field : Option String} {q : Option (Quantization Float)}

theorem geometryOf_faultsWhen {typeName : String} {properties : List (String × Value)} {id : Value}
    (hv : (Value.entity typeName properties id).OnGrid) :
    FaultsWhen ((∃ q' ∈ q, q'.IsDegenerate) ∧ (Value.entity typeName properties id).Draws field) .divisionByZero
      (geometryOf field properties q) := by
  have hgetD : (q.getD .identity).IsDegenerate ↔ ∃ q' ∈ q, q'.IsDegenerate := by
    cases q with
    | none => simp [Quantization.not_isDegenerate_identity]
    | some q => simp
  unfold geometryOf
  split
  · next g hg =>
    split
    · next hfield => exact .ok _ fun h => h.2.1 hfield
    · next hfield =>
      obtain ⟨name, -, hlookup⟩ := Option.bind_eq_some_iff.1 hg
      obtain ⟨before, after, hsplit, -⟩ := List.lookup_eq_some_iff.1 hlookup
      have hcoords := hv (name, .geometry g) (by simp [hsplit]) g rfl
      refine ((Quantization.dequantize_faultsWhen (q.getD .identity) hcoords).map _).congr ?_
      rw [hgetD]
      exact (and_iff_left ⟨hfield, g, hg⟩).symm
  · next hnone => exact .ok _ fun h => h.2.2.elim fun g hg => hnone g hg

theorem ofValue_faultsWhen {v : Value} (hv : v.OnGrid) :
    FaultsWhen ((∃ q' ∈ q, q'.IsDegenerate) ∧ v.Draws field) .divisionByZero (ofValue field q v) := by
  cases v with
  | entity typeName properties id => exact (geometryOf_faultsWhen hv).map _
  | _ => exact .ok _ fun h => h.2

end Feature

/-! ## Collections -/

namespace FeatureCollection

variable {field : Option String} {q : Option (Quantization Float)} {rows : List (List Value)}

theorem ofRows_faultsWhen (hrows : QueryResponse.RowsOnGrid rows) :
    FaultsWhen ((∃ q' ∈ q, q'.IsDegenerate) ∧ ∃ v ∈ rows.filterMap List.head?, v.Draws field) .divisionByZero
      (ofRows field q rows) := by
  have hvalues : ∀ v ∈ rows.filterMap List.head?, v.OnGrid := by
    intro v hv
    obtain ⟨row, hrow, hhead⟩ := List.mem_filterMap.1 hv
    exact hrows row hrow v (List.mem_of_head? hhead)
  refine ((FaultsWhen.mapM fun v hv => Feature.ofValue_faultsWhen (hvalues v hv)).map features).congr ?_
  simp only [and_left_comm (a := _ ∈ _), exists_and_left]

theorem ofRelatedRows_faultsWhen (hrows : QueryResponse.RowsOnGrid rows) :
    FaultsWhen ((∃ q' ∈ q, q'.IsDegenerate) ∧ ∃ p ∈ rows.filterMap related?, p.2.Draws field) .divisionByZero
      (ofRelatedRows field q rows) := by
  have hvalues : ∀ p ∈ rows.filterMap related?, p.2.OnGrid := by
    intro p hp
    obtain ⟨row, hrow, hrelated⟩ := List.mem_filterMap.1 hp
    unfold related? at hrelated
    split at hrelated
    · obtain rfl := Option.some.inj hrelated
      exact hrows _ hrow _ (by simp)
    · cases hrelated
  refine ((FaultsWhen.mapM fun p hp => (Feature.ofValue_faultsWhen (hvalues p hp)).map _).map _).congr ?_
  simp only [and_left_comm (a := _ ∈ _), exists_and_left]

theorem ofCount_float_eq_error_iff {x : Float} {d : Defect} : ofCount [[.float x]] = .error d ↔
    x.isNaN = true ∧ d = .notANumber ∨ x.isInf = true ∧ d = .infiniteNumber := by
  unfold ofCount
  dsimp only
  cases htruncate : Number.truncate? x with
  | some n =>
    have hfinite : ¬(x.isNaN = true ∨ x.isInf = true) := by
      rw [← Number.truncate?_eq_none_iff, htruncate]
      exact nofun
    constructor
    · rintro ⟨⟩
    · rintro (⟨hnan, -⟩ | ⟨hinf, -⟩)
      · exact (hfinite (.inl hnan)).elim
      · exact (hfinite (.inr hinf)).elim
  | none =>
    dsimp only
    rcases Number.truncate?_eq_none_iff.1 htruncate with hnan | hinf
    · rw [if_pos hnan]
      constructor
      · rintro ⟨⟩
        exact .inl ⟨hnan, rfl⟩
      · rintro (⟨-, rfl⟩ | ⟨hinf, -⟩)
        · rfl
        · exact absurd (hnan.symm.trans (Number.not_isNaN_of_isInf hinf)) (by decide)
    · have hnan := Number.not_isNaN_of_isInf hinf
      rw [if_neg (by rw [hnan]; decide)]
      constructor
      · rintro ⟨⟩
        exact .inr ⟨hinf, rfl⟩
      · rintro (⟨hnan', -⟩ | ⟨-, rfl⟩)
        · exact absurd (hnan'.symm.trans hnan) (by decide)
        · rfl

theorem ofCount_eq_error_iff {d : Defect} : ofCount rows = .error d ↔
    ∃ x, rows = [[.float x]] ∧ (x.isNaN = true ∧ d = .notANumber ∨ x.isInf = true ∧ d = .infiniteNumber) := by
  constructor
  · intro h
    unfold ofCount at h
    split at h
    · cases h
    · next x => exact ⟨x, rfl, ofCount_float_eq_error_iff.1 h⟩
    · cases h
  · rintro ⟨x, rfl, hx⟩
    exact ofCount_float_eq_error_iff.2 hx

/-- Assembling a decoded response fails in two ways only: by a division by zero, if a geometry is to be shown and a
scale is zero, and on a count that is a NaN or infinite. -/
theorem assembly_eq_error_iff {buffer : List UInt8} {r : QueryResponse} (h : QueryResponse.decode buffer = .ok r)
    (field : Option String) (d : Defect) :
    (ofRows field r.transform r.rows = .error d ↔
      d = .divisionByZero ∧ r.IsDegenerate ∧ ∃ v ∈ r.rows.filterMap List.head?, v.Draws field) ∧
    (ofRelatedRows field r.transform r.rows = .error d ↔
      d = .divisionByZero ∧ r.IsDegenerate ∧ ∃ p ∈ r.rows.filterMap related?, p.2.Draws field) ∧
    (ofCount r.rows = .error d ↔
      ∃ x, r.rows = [[.float x]] ∧ (x.isNaN = true ∧ d = .notANumber ∨ x.isInf = true ∧ d = .infiniteNumber)) := by
  have hrows := QueryResponse.rowsOnGrid_of_decode h
  exact ⟨(ofRows_faultsWhen hrows).eq_error_iff d, (ofRelatedRows_faultsWhen hrows).eq_error_iff d,
    ofCount_eq_error_iff⟩

open Wire in
/-- One entity with a point, under a transform whose scales are both left at zero. -/
theorem assembly_divides_by_zero :
    ∃ r, QueryResponse.decode (encodeResponse
      [[[.entity "Well" [("shape", .primitive (.geometry { lengths := [1], coords := [1, 2] }))] none]]]
      (some ⟨0, 0, 0, 0⟩) [] none) = .ok r ∧
      ofRows (some "shape") r.transform r.rows = .error .divisionByZero := by
  let frames : List (List (List Any)) :=
    [[[.entity "Well" [("shape", .primitive (.geometry { lengths := [1], coords := [1, 2] }))] none]]]
  have hpoint : Geometry.InRange { lengths := [1], coords := [1, 2] } :=
    ⟨by decide, nofun, by decide, by decide⟩
  have hvalues : ∀ rows ∈ frames, ∀ row ∈ rows, ∀ v ∈ row, v.WellFormed QueryResponse.Storable := by
    simp only [frames, List.mem_singleton, forall_eq]
    exact .entity (by decide) (by simpa using .primitive ⟨hpoint, trivial⟩) nofun
  have hlength : ∀ m ∈ QueryResponse.messages frames (some ⟨0, 0, 0, 0⟩) [] none, Framable m := by
    decide +kernel
  have hdecode := QueryResponse.decode_messages hvalues (by decide) hlength rfl
  rw [← QueryResponse.encodeResponse_eq_stream, if_pos (by decide +kernel)] at hdecode
  obtain ⟨hrows, -⟩ := assembly_eq_error_iff hdecode (some "shape") .divisionByZero
  refine ⟨_, hdecode, hrows.2 ⟨rfl, ⟨_, rfl, ?_⟩, _, List.mem_singleton_self _, ?_⟩⟩
  · unfold Quantization.IsDegenerate
    decide
  · exact ⟨by decide, _, rfl⟩

end FeatureCollection

end FeatureGraph
